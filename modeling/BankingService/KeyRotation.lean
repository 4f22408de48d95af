import BankingService.Library.Checked
import BankingService.Library.Runs
import BankingService.Python
import Mathlib.Data.List.Nodup
import Mathlib.Data.List.Sort
import Mathlib.Data.Nat.Find

/-! The envelope encryption of KYC records, and the rotation of the keys that wrap their data keys.
A rotation goes through the records in batches; other rotations, submissions and deletions run
between its reads and its commits, and it may stop anywhere. -/
namespace BankingService.KeyRotation

open Python Checked Runs

abbrev Bytes := List UInt8

inductive KeyException where
  | runtimeError (message : String)
  | valueError
  | invalidTag
  | unicodeDecodeError
  | staleDataError
  deriving DecidableEq, Repr

/-- AES-GCM. The arguments are a key, a nonce, the data or the ciphertext with its tag, and the
associated data. -/
structure Aead where
  encrypt : Bytes → Bytes → Bytes → Bytes → Bytes
  decrypt : Bytes → Bytes → Bytes → Bytes → Option Bytes

def ValidKey (key : Bytes) : Prop := key.length = 16 ∨ key.length = 24 ∨ key.length = 32

instance : DecidablePred ValidKey := fun _ => inferInstanceAs (Decidable (_ ∨ _))

/-- The remote key service; `none` is a failed call. -/
structure Kms (ι : Type) where
  encrypt : String → ι → Bytes → Option Bytes
  decrypt : String → Bytes → Option Bytes

structure KeyService (ι : Type) where
  aead : Aead
  kms : Option (Kms ι)
  keyName : String

structure Kek where
  name : Option String
  mock : Option Bytes
  deriving DecidableEq

def MOCK_LOCAL_KEK : Bytes := utf8 "0123456789abcdef0123456789abcdef"

def Kek.mocked (kek : Kek) : Option Bytes := kek.mock.filter (· ≠ [])

def Kek.localKey (kek : Kek) : Bytes := kek.mocked.getD MOCK_LOCAL_KEK

def mockNonce : Bytes := utf8 "mocknonce123"

section

variable {ι : Type} (service : KeyService ι)

def Kek.resource (kek : Kek) : String := (kek.name.filter (· ≠ "")).getD service.keyName

/-- The remote service, unless a local key is given. -/
def KeyService.client (kek : Kek) : Option (Kms ι) :=
  if kek.mocked.isNone then service.kms else none

/-- `AESGCM(key)` -/
def aesgcm (key : Bytes) : Except KeyException Bytes := do
  require (ValidKey key) .valueError
  return key

def wrapDek (vector : ι) (dek : Bytes) (kek : Kek) : Except KeyException Bytes := do
  match service.client kek with
  | some kms =>
    orRaise (kms.encrypt (kek.resource service) vector dek)
      (.runtimeError "Failed to wrap DEK via Cloud KMS")
  | none =>
    let key ← aesgcm kek.localKey
    return mockNonce ++ service.aead.encrypt key mockNonce dek (utf8 "wrap_aad")

def unwrapDek (wrappedDek : Bytes) (kek : Kek) : Except KeyException Bytes := do
  match service.client kek with
  | some kms =>
    orRaise (kms.decrypt (kek.resource service) wrappedDek)
      (.runtimeError "Failed to unwrap DEK via Cloud KMS")
  | none =>
    let nonce := wrappedDek.take 12
    let ciphertext := wrappedDek.drop 12
    let key ← aesgcm kek.localKey
    orRaise (service.aead.decrypt key nonce ciphertext (utf8 "wrap_aad")) .invalidTag

abbrev Dek := { dek : Bytes // dek.length = 32 }

structure EncryptedPii where
  encryptedPii : Bytes
  wrappedDek : Bytes
  encryptionIv : Bytes
  authTag : Bytes

def associatedData (userId recordId : String) : Bytes := utf8 (userId ++ ":" ++ recordId)

/-- The data key, the vector and what the key service draws are random. -/
def encryptPii (dek : Dek) (iv : Bytes) (vector : ι) (plaintextPii userId recordId : String)
    (kek : Kek) : Except KeyException EncryptedPii := do
  let key ← aesgcm dek.val
  let ciphertextAndTag :=
    service.aead.encrypt key iv (utf8 plaintextPii) (associatedData userId recordId)
  let wrappedDek ← wrapDek service vector dek.val kek
  return {
    encryptedPii := ciphertextAndTag.take (ciphertextAndTag.length - 16)
    wrappedDek
    encryptionIv := iv
    authTag := ciphertextAndTag.drop (ciphertextAndTag.length - 16) }

def decryptPii (pii : EncryptedPii) (userId recordId : String) (kek : Kek) :
    Except KeyException String := do
  let dek ← unwrapDek service pii.wrappedDek kek
  let key ← aesgcm dek
  let decrypted ← orRaise
    (service.aead.decrypt key pii.encryptionIv (pii.encryptedPii ++ pii.authTag)
      (associatedData userId recordId)) .invalidTag
  orRaise (String.fromUTF8? ⟨decrypted.toArray⟩) .unicodeDecodeError

def rotateRecordDek (vector : ι) (wrappedDek : Bytes) (old new : Kek) :
    Except KeyException Bytes := do
  let dek ← unwrapDek service wrappedDek old
  wrapDek service vector dek new

end

structure KycRecord where
  id : Uuid
  userId : Uuid
  pii : EncryptedPii

structure Submission (ι : Type) where
  id : Uuid
  userId : Uuid
  plaintext : String
  dek : Dek
  iv : Bytes
  vector : ι
  kek : Kek

/-- Where `batch_rotate_kyc_deks` is: before the next page, before the commit of this one,
or done. -/
inductive RotationPhase where
  | selecting
  | writing (updates : List (Uuid × Bytes))
  | returned
  | raised (e : KeyException)

structure Rotation where
  old : Kek
  new : Kek
  batchSize : ℕ
  offset : ℕ
  totalRotated : ℕ
  phase : RotationPhase

structure KycStore where
  records : List KycRecord
  rotations : ℕ → Option Rotation

inductive KycEvent (ι : Type) where
  | submit (x : Submission ι)
  | delete (id : Uuid)
  | start (p : ℕ) (old new : Kek) (batchSize : ℕ)
  | select (p : ℕ) (vectors : Uuid → ι)
  | commit (p : ℕ)

def ordered (records : List KycRecord) : List KycRecord :=
  records.insertionSort fun a b => a.id.str ≤ b.id.str

/-- `order_by(KYCRecord.id).offset(offset).limit(batch_size)` -/
def page (records : List KycRecord) (offset batchSize : ℕ) : List KycRecord :=
  ((ordered records).drop offset).take batchSize

def KycRecord.rewrap (updates : List (Uuid × Bytes)) (r : KycRecord) : KycRecord :=
  match updates.lookup r.id with
  | some wrappedDek => { r with pii := { r.pii with wrappedDek } }
  | none => r

def KycStore.move (s : KycStore) (p : ℕ) (r : Rotation) : KycStore :=
  { s with rotations := Function.update s.rotations p (some r) }

section

variable {ι : Type} (service : KeyService ι)

def submit (s : KycStore) (x : Submission ι) : KycStore :=
  match encryptPii service x.dek x.iv x.vector x.plaintext x.userId.str x.id.str x.kek with
  | .ok pii =>
    if x.id ∈ s.records.map KycRecord.id then s
    else { s with records := s.records ++ [⟨x.id, x.userId, pii⟩] }
  | .error _ => s

def rotateRecord (vectors : Uuid → ι) (old new : Kek) (r : KycRecord) :
    Except KeyException (Uuid × Bytes) := do
  let newWrapped ← rotateRecordDek service (vectors r.id) r.pii.wrappedDek old new
  return (r.id, newWrapped)

def select (s : KycStore) (p : ℕ) (vectors : Uuid → ι) : KycStore :=
  match s.rotations p with
  | some r =>
    match r.phase with
    | .selecting =>
      let records := page s.records r.offset r.batchSize
      if records = [] then s.move p { r with phase := .returned }
      else
        match records.mapM (rotateRecord service vectors r.old r.new) with
        | .ok updates => s.move p { r with phase := .writing updates }
        | .error e => s.move p { r with phase := .raised e }
    | _ => s
  | none => s

def commit (s : KycStore) (p : ℕ) : KycStore :=
  match s.rotations p with
  | some r =>
    match r.phase with
    | .writing updates =>
      if ∀ u ∈ updates, u.1 ∈ s.records.map KycRecord.id then
        { s.move p { r with
            offset := r.offset + r.batchSize
            totalRotated := r.totalRotated + updates.length
            phase := .selecting } with
          records := s.records.map (KycRecord.rewrap updates) }
      else s.move p { r with phase := .raised .staleDataError }
    | _ => s
  | none => s

def kycNext (s : KycStore) : KycEvent ι → KycStore
  | .submit x => submit service s x
  | .delete id => { s with records := s.records.filter fun r => r.id ≠ id }
  | .start p old new batchSize => s.move p ⟨old, new, batchSize, 0, 0, .selecting⟩
  | .select p vectors => select service s p vectors
  | .commit p => commit s p

def kycRuns : Machine KycStore (KycEvent ι) where
  Enabled _ _ := True
  next := kycNext service

end

def emptyKyc : KycStore := ⟨[], fun _ => none⟩

structure Aead.Lawful (aead : Aead) : Prop where
  opens : ∀ key nonce data associated, ValidKey key →
    aead.decrypt key nonce (aead.encrypt key nonce data associated) associated = some data

structure KeyService.Lawful {ι : Type} (service : KeyService ι) : Prop where
  aead : service.aead.Lawful
  kms : ∀ kms ∈ service.kms, ∀ name vector dek wrapped,
    kms.encrypt name vector dek = some wrapped → kms.decrypt name wrapped = some dek

section

variable {ι : Type} {service : KeyService ι}

theorem aesgcm_eq_ok {key key' : Bytes} : aesgcm key = .ok key' ↔ ValidKey key ∧ key = key' := by
  simp [aesgcm]

theorem unwrap_wrap (lawful : service.Lawful) {vector : ι} {dek wrapped : Bytes} {kek : Kek}
    (h : wrapDek service vector dek kek = .ok wrapped) :
    unwrapDek service wrapped kek = .ok dek := by
  unfold wrapDek at h
  unfold unwrapDek
  cases hclient : service.client kek with
  | some kms =>
    simp only [hclient, orRaise_eq_ok] at h ⊢
    have hkms : kms ∈ service.kms := by
      unfold KeyService.client at hclient
      by_cases hmock : kek.mocked.isNone = true
      · rwa [if_pos hmock] at hclient
      · rw [if_neg hmock] at hclient
        cases hclient
    exact lawful.kms kms hkms _ _ _ _ h
  | none =>
    simp only [hclient, bind_eq_ok, pure_eq_ok, aesgcm_eq_ok] at h
    obtain ⟨key, ⟨hvalid, rfl⟩, rfl⟩ := h
    have hnonce : mockNonce.length = 12 := by decide
    have hkey : aesgcm kek.localKey = .ok kek.localKey := aesgcm_eq_ok.mpr ⟨hvalid, rfl⟩
    have hopens := lawful.aead.opens kek.localKey mockNonce dek (utf8 "wrap_aad") hvalid
    simp only [← hnonce, List.take_left, List.drop_left, hkey, ok_bind, hopens]
    rfl

/-- A record is read back under any wrapping of its data key. -/
theorem decrypt_encrypt (lawful : service.Lawful) {dek : Dek} {iv wrapped : Bytes} {vector : ι}
    {plaintext userId recordId : String} {kek kek' : Kek} {pii : EncryptedPii}
    (hpii : encryptPii service dek iv vector plaintext userId recordId kek = .ok pii)
    (hwrapped : unwrapDek service wrapped kek' = .ok dek.val) :
    decryptPii service { pii with wrappedDek := wrapped } userId recordId kek' =
      .ok plaintext := by
  have hvalid : ValidKey dek.val := Or.inr (Or.inr dek.property)
  have hkey : aesgcm dek.val = .ok dek.val := aesgcm_eq_ok.mpr ⟨hvalid, rfl⟩
  simp only [encryptPii, hkey, ok_bind, bind_eq_ok, pure_eq_ok] at hpii
  obtain ⟨w, -, rfl⟩ := hpii
  have hopens :=
    lawful.aead.opens dek.val iv (utf8 plaintext) (associatedData userId recordId) hvalid
  simp only [decryptPii, hwrapped, ok_bind, hkey, List.take_append_drop, hopens]
  rw [orRaise_eq_ok.mpr rfl, ok_bind, decode_utf8]
  rfl

end

section

variable {ι : Type} (service : KeyService ι)

def keks (es : List (KycEvent ι)) : List Kek :=
  es.flatMap fun
    | .submit x => [x.kek]
    | .start _ old new _ => [old, new]
    | _ => []

/-- No key of the run opens what one of them wrapped to anything but what was wrapped. -/
def Sealed (es : List (KycEvent ι)) : Prop :=
  ∀ x, .submit x ∈ es → ∀ kek ∈ keks es, ∀ kek' ∈ keks es, ∀ vector wrapped dek,
    wrapDek service vector x.dek.val kek = .ok wrapped →
    unwrapDek service wrapped kek' = .ok dek → dek = x.dek.val

def Wrapped (es : List (KycEvent ι)) (x : Submission ι) (wrapped : Bytes) : Prop :=
  ∃ kek ∈ keks es, ∃ vector, wrapDek service vector x.dek.val kek = .ok wrapped

/-- The record is the submission's, its data key under some wrapping. -/
structure IsRecord (es : List (KycEvent ι)) (x : Submission ι) (r : KycRecord) : Prop where
  submitted : .submit x ∈ es
  id : x.id = r.id
  userId : x.userId = r.userId
  sealed : ∃ pii, encryptPii service x.dek x.iv x.vector x.plaintext x.userId.str x.id.str x.kek =
    .ok pii ∧ r.pii = { pii with wrappedDek := r.pii.wrappedDek }
  wrapped : Wrapped service es x r.pii.wrappedDek

/-- What a rotation is about to write wraps the data key of the record it is for. -/
def Pending (es : List (KycEvent ι)) : RotationPhase → Prop
  | .writing updates => ∀ u ∈ updates, ∃ x, .submit x ∈ es ∧ x.id = u.1 ∧ Wrapped service es x u.2
  | _ => True

structure Safe (es : List (KycEvent ι)) (s : KycStore) : Prop where
  records : ∀ r ∈ s.records, ∃ x, IsRecord service es x r
  rotations : ∀ p r, s.rotations p = some r →
    r.old ∈ keks es ∧ r.new ∈ keks es ∧ Pending service es r.phase

variable {service} {es : List (KycEvent ι)} {s : KycStore}

theorem Safe.move (h : Safe service es s) {p : ℕ} {r : Rotation} (hold : r.old ∈ keks es)
    (hnew : r.new ∈ keks es) (hphase : Pending service es r.phase) :
    Safe service es (s.move p r) where
  records := h.records
  rotations := by
    intro q r' hr
    by_cases hq : q = p
    · subst hq
      simp only [KycStore.move, Function.update_self, Option.some.injEq] at hr
      subst hr
      exact ⟨hold, hnew, hphase⟩
    · simp only [KycStore.move, Function.update_of_ne hq] at hr
      exact h.rotations q r' hr

theorem mem_page {records : List KycRecord} {offset batchSize : ℕ} {r : KycRecord}
    (h : r ∈ page records offset batchSize) : r ∈ records :=
  (List.mem_insertionSort _).mp (List.mem_of_mem_drop (List.mem_of_mem_take h))

/-- Rotating the data key of a record wraps the same key again. -/
theorem wrapped_rotate (hsealed : Sealed service es) {x : Submission ι} {r : KycRecord}
    (hx : IsRecord service es x r) {old new : Kek} (hold : old ∈ keks es) (hnew : new ∈ keks es)
    {vector : ι} {w : Bytes}
    (hw : rotateRecordDek service vector r.pii.wrappedDek old new = .ok w) :
    Wrapped service es x w := by
  simp only [rotateRecordDek, bind_eq_ok] at hw
  obtain ⟨dek, hunwrap, hwrap⟩ := hw
  obtain ⟨kek, hkek, vector', hwrapped⟩ := hx.wrapped
  obtain rfl : dek = x.dek.val :=
    hsealed x hx.submitted kek hkek old hold vector' _ dek hwrapped hunwrap
  exact ⟨new, hnew, vector, hwrap⟩

theorem safe_submit (h : Safe service es s) {x : Submission ι} (hx : .submit x ∈ es) :
    Safe service es (submit service s x) := by
  unfold submit
  cases hpii : encryptPii service x.dek x.iv x.vector x.plaintext x.userId.str x.id.str x.kek with
  | error e => exact h
  | ok pii =>
    dsimp only
    by_cases hthere : x.id ∈ s.records.map KycRecord.id
    · rw [if_pos hthere]
      exact h
    · rw [if_neg hthere]
      refine ⟨?_, h.rotations⟩
      intro r hr
      rcases List.mem_append.mp hr with hr | hr
      · exact h.records r hr
      · obtain rfl := List.mem_singleton.mp hr
        have hkek : x.kek ∈ keks es := List.mem_flatMap.mpr ⟨_, hx, List.mem_singleton.mpr rfl⟩
        refine ⟨x, hx, rfl, rfl, ⟨pii, hpii, rfl⟩, x.kek, hkek, x.vector, ?_⟩
        simp only [encryptPii, bind_eq_ok, pure_eq_ok] at hpii
        obtain ⟨key, -, w, hw, rfl⟩ := hpii
        exact hw

theorem safe_select (hsealed : Sealed service es) (h : Safe service es s) (p : ℕ)
    (vectors : Uuid → ι) : Safe service es (select service s p vectors) := by
  unfold select
  cases hr : s.rotations p with
  | none => exact h
  | some r =>
    obtain ⟨hold, hnew, hpending⟩ := h.rotations p r hr
    dsimp only
    cases hphase : r.phase with
    | selecting =>
      dsimp only
      by_cases hempty : page s.records r.offset r.batchSize = []
      · rw [if_pos hempty]
        exact h.move hold hnew trivial
      · rw [if_neg hempty]
        cases hmap : (page s.records r.offset r.batchSize).mapM
            (rotateRecord service vectors r.old r.new) with
        | error e => exact h.move hold hnew trivial
        | ok updates =>
          dsimp only
          refine h.move hold hnew ?_
          rw [mapM_eq_ok] at hmap
          intro u hu
          obtain ⟨record, hrecord, hrotate⟩ := mem_right_of_forall₂ hmap hu
          simp only [rotateRecord, bind_eq_ok, pure_eq_ok] at hrotate
          obtain ⟨w, hw, rfl⟩ := hrotate
          obtain ⟨x, hx⟩ := h.records record (mem_page hrecord)
          exact ⟨x, hx.submitted, hx.id, wrapped_rotate hsealed hx hold hnew hw⟩
    | writing updates => exact h
    | returned => exact h
    | raised e => exact h

theorem safe_commit (hfresh : ∀ x y, .submit x ∈ es → .submit y ∈ es → x.id = y.id → x = y)
    (h : Safe service es s) (p : ℕ) : Safe service es (commit s p) := by
  unfold commit
  cases hr : s.rotations p with
  | none => exact h
  | some r =>
    obtain ⟨hold, hnew, hpending⟩ := h.rotations p r hr
    dsimp only
    cases hphase : r.phase with
    | writing updates =>
      rw [hphase] at hpending
      dsimp only
      by_cases hthere : ∀ u ∈ updates, u.1 ∈ s.records.map KycRecord.id
      · rw [if_pos hthere]
        refine ⟨?_, ?_⟩
        · intro record hrecord
          obtain ⟨original, horiginal, rfl⟩ := List.mem_map.mp hrecord
          obtain ⟨x, hx⟩ := h.records original horiginal
          unfold KycRecord.rewrap
          cases hlookup : updates.lookup original.id with
          | none => exact ⟨x, hx⟩
          | some w =>
            have hmem : (original.id, w) ∈ updates := by
              obtain ⟨l, l', rfl, -⟩ := List.lookup_eq_some_iff.mp hlookup
              exact List.mem_append_right _ List.mem_cons_self
            obtain ⟨y, hy, hid, hwrapped⟩ := hpending _ hmem
            obtain rfl : x = y := hfresh x y hx.submitted hy (hx.id.trans hid.symm)
            obtain ⟨pii, hpii, hshape⟩ := hx.sealed
            refine ⟨x, hx.submitted, hx.id, hx.userId, ⟨pii, hpii, ?_⟩, hwrapped⟩
            dsimp only
            rw [hshape]
        · have hmoved : Safe service es (s.move p { r with
              offset := r.offset + r.batchSize
              totalRotated := r.totalRotated + updates.length
              phase := .selecting }) := h.move hold hnew trivial
          exact hmoved.rotations
      · rw [if_neg hthere]
        exact h.move hold hnew trivial
    | selecting => exact h
    | returned => exact h
    | raised e => exact h

theorem safe_next (hsealed : Sealed service es)
    (hfresh : ∀ x y, .submit x ∈ es → .submit y ∈ es → x.id = y.id → x = y)
    (h : Safe service es s) {e : KycEvent ι} (he : e ∈ es) :
    Safe service es (kycNext service s e) := by
  cases e with
  | submit x => exact safe_submit h he
  | delete id =>
    refine ⟨?_, h.rotations⟩
    intro r hr
    exact h.records r (List.mem_of_mem_filter hr)
  | start p old new batchSize =>
    have hmem : ∀ kek ∈ [old, new], kek ∈ keks es :=
      fun kek hkek => List.mem_flatMap.mpr ⟨_, he, hkek⟩
    apply h.move
    · exact hmem old List.mem_cons_self
    · exact hmem new (List.mem_cons_of_mem _ List.mem_cons_self)
    · trivial
  | select p vectors => exact safe_select hsealed h p vectors
  | commit p => exact safe_commit hfresh h p

end

/-- In any order of submissions, deletions and rotations, finished or not, each record is read back
as it was submitted, under one of the keys that were given. -/
theorem pii_survives_rotations {ι : Type} (service : KeyService ι) (lawful : service.Lawful)
    (es : List (KycEvent ι)) (hsealed : Sealed service es)
    (hfresh : ∀ x y, .submit x ∈ es → .submit y ∈ es → x.id = y.id → x = y) :
    ∀ r ∈ ((kycRuns service).final emptyKyc es).records, ∃ x, .submit x ∈ es ∧ x.id = r.id ∧
      x.userId = r.userId ∧ ∃ kek ∈ keks es,
        decryptPii service r.pii r.userId.str r.id.str kek = .ok x.plaintext := by
  have hstart : Safe service es emptyKyc := by
    refine ⟨?_, ?_⟩
    · rintro r ⟨⟩
    · rintro p r ⟨⟩
  have hsafe : Safe service es ((kycRuns service).final emptyKyc es) := by
    apply final_of_each (P := Safe service es) (C := fun _ e => e ∈ es) ?_ hstart
    · exact each_of_forall (fun e he => he) _
    · intro s e h he
      exact safe_next hsealed hfresh h he
  intro r hr
  obtain ⟨x, hx⟩ := hsafe.records r hr
  obtain ⟨kek, hkek, vector, hwrapped⟩ := hx.wrapped
  obtain ⟨pii, hpii, hshape⟩ := hx.sealed
  refine ⟨x, hx.submitted, hx.id, hx.userId, kek, hkek, ?_⟩
  rw [hshape, ← hx.id, ← hx.userId]
  exact decrypt_encrypt lawful hpii (unwrap_wrap lawful hwrapped)

def markingAead : Aead where
  encrypt key _ data _ := data ++ key.take 16
  decrypt key _ ciphertext _ :=
    if ciphertext.drop (ciphertext.length - 16) = key.take 16 then
      some (ciphertext.take (ciphertext.length - 16))
    else none

def markingService : KeyService Unit := ⟨markingAead, none, "kek"⟩

theorem length_mark {key : Bytes} (h : ValidKey key) : (key.take 16).length = 16 := by
  rw [List.length_take]
  rcases h with h | h | h <;> omega

theorem take_marked {key data : Bytes} (h : ValidKey key) :
    (data ++ key.take 16).take ((data ++ key.take 16).length - 16) = data := by
  rw [List.length_append, length_mark h, Nat.add_sub_cancel, List.take_left]

theorem marking_lawful : markingService.Lawful := by
  refine ⟨⟨?_⟩, ?_⟩
  · intro key nonce data associated hvalid
    have hdrop : (data ++ key.take 16).drop ((data ++ key.take 16).length - 16) = key.take 16 := by
      rw [List.length_append, length_mark hvalid, Nat.add_sub_cancel, List.drop_left]
    simp only [markingService, markingAead]
    rw [if_pos hdrop, take_marked hvalid]
  · rintro kms ⟨⟩

theorem marking_sealed (es : List (KycEvent Unit)) : Sealed markingService es := by
  intro x _ kek _ kek' _ vector wrapped dek hwrap hunwrap
  have hlocal : ∀ kek : Kek, markingService.client kek = none := by
    intro kek
    unfold KeyService.client
    split <;> rfl
  simp only [wrapDek, hlocal, bind_eq_ok, aesgcm_eq_ok, pure_eq_ok] at hwrap
  obtain ⟨key, ⟨hvalid, rfl⟩, rfl⟩ := hwrap
  have hnonce : mockNonce.length = 12 := by decide
  simp only [unwrapDek, hlocal, bind_eq_ok, orRaise_eq_ok, ← hnonce, List.drop_left] at hunwrap
  obtain ⟨key, -, hopen⟩ := hunwrap
  simp only [markingService, markingAead, Option.ite_none_right_eq_some, Option.some.injEq] at hopen
  rw [← hopen.2, take_marked hvalid]

def oldKek : Kek := ⟨none, some (List.replicate 32 1)⟩

def newKek : Kek := ⟨none, some (List.replicate 32 2)⟩

def otherKek : Kek := ⟨none, some (List.replicate 32 3)⟩

def submission (id : ℕ) (plaintext : String) (kek : Kek) : Submission Unit where
  id := .ofNat id
  userId := .ofNat 4
  plaintext
  dek := ⟨List.replicate 32 7, rfl⟩
  iv := List.replicate 12 0
  vector := ()
  kek

def annSubmission : Submission Unit := submission 3 "999-88-7777" oldKek

def bobSubmission : Submission Unit := submission 5 "111-22-3333" oldKek

/-- Two rotations from one key to different ones, a record at a time. Both write the first record,
and the second rotation raises at the other one, which the old key no longer opens. -/
def rotationMorning : List (KycEvent Unit) :=
  [.submit annSubmission, .submit bobSubmission,
    .start 1 oldKek newKek 1, .select 1 fun _ => (),
    .start 2 oldKek otherKek 1, .select 2 fun _ => (), .commit 1, .commit 2,
    .select 1 fun _ => (), .commit 1, .select 2 fun _ => ()]

theorem ann_survives_rotations :
    let records := ((kycRuns markingService).final emptyKyc rotationMorning).records
    records.map KycRecord.id = [annSubmission.id, bobSubmission.id] ∧
    ∀ r ∈ records, ∃ x ∈ [annSubmission, bobSubmission], x.id = r.id ∧
      ∃ kek ∈ keks rotationMorning,
        decryptPii markingService r.pii r.userId.str r.id.str kek = .ok x.plaintext := by
  intro records
  have htwo : ∀ x, .submit x ∈ rotationMorning → x ∈ [annSubmission, bobSubmission] := by
    intro x hx
    simpa [rotationMorning] using hx
  have hdistinct : annSubmission.id ≠ bobSubmission.id := by decide +kernel
  have hfresh : ∀ x y, .submit x ∈ rotationMorning → .submit y ∈ rotationMorning →
      x.id = y.id → x = y := by
    intro x y hx hy hid
    have hx := htwo x hx
    have hy := htwo y hy
    simp only [List.mem_cons, List.not_mem_nil, or_false] at hx hy
    rcases hx with rfl | rfl <;> rcases hy with rfl | rfl
    · rfl
    · exact absurd hid hdistinct
    · exact absurd hid.symm hdistinct
    · rfl
  refine ⟨by decide +kernel, ?_⟩
  intro r hr
  obtain ⟨x, hx, hid, -, hkek⟩ := pii_survives_rotations markingService marking_lawful
    rotationMorning (marking_sealed _) hfresh r hr
  exact ⟨x, htwo x hx, hid, hkek⟩

section

variable {ι : Type} (service : KeyService ι) (vectors : Uuid → ι) (old new : Kek)

/-- The old key opens the record's data key, and the new one wraps it. -/
def Rotates (r : KycRecord) : Prop :=
  ∃ w, rotateRecordDek service (vectors r.id) r.pii.wrappedDek old new = .ok w

instance : DecidablePred (Rotates service vectors old new) :=
  fun _ => decidableSucceeds _

def rotated (r : KycRecord) : KycRecord :=
  match rotateRecordDek service (vectors r.id) r.pii.wrappedDek old new with
  | .ok wrappedDek => { r with pii := { r.pii with wrappedDek } }
  | .error _ => r

def rotatedAt (ids : List Uuid) (r : KycRecord) : KycRecord :=
  if r.id ∈ ids then rotated service vectors old new r else r

def firstIds (records : List KycRecord) (n : ℕ) : List Uuid :=
  ((ordered records).take n).map KycRecord.id

def rounds (p : ℕ) : ℕ → List (KycEvent ι)
  | 0 => []
  | n + 1 => rounds p n ++ [.select p vectors, .commit p]

/-- The rotation is past its first pages, all of whose records have been rotated. -/
structure Progress (p : ℕ) (base : List KycRecord) (batchSize n : ℕ) (s : KycStore) : Prop where
  rotation : s.rotations p = some ⟨old, new, batchSize, n * batchSize,
    ((ordered base).take (n * batchSize)).length, .selecting⟩
  records : s.records =
    base.map (rotatedAt service vectors old new (firstIds base (n * batchSize)))

variable {service vectors old new}

theorem rotatedAt_id {ids : List Uuid} (r : KycRecord) :
    (rotatedAt service vectors old new ids r).id = r.id := by
  unfold rotatedAt rotated
  by_cases hmem : r.id ∈ ids
  · rw [if_pos hmem]
    cases rotateRecordDek service (vectors r.id) r.pii.wrappedDek old new <;> rfl
  · rw [if_neg hmem]

theorem page_map {f : KycRecord → KycRecord} (hf : ∀ r, (f r).id = r.id)
    (records : List KycRecord) (offset batchSize : ℕ) :
    page (records.map f) offset batchSize = (page records offset batchSize).map f := by
  have hsort : ordered (records.map f) = (ordered records).map f := by
    refine (List.map_insertionSort _ _ f records ?_).symm
    intro a _ b _
    rw [hf, hf]
  unfold page
  rw [hsort, ← List.map_drop, ← List.map_take]

variable {base : List KycRecord} {batchSize : ℕ}

theorem take_page (offset : ℕ) : (ordered base).take (offset + batchSize) =
    (ordered base).take offset ++ page base offset batchSize := List.take_add

theorem ordered_distinct (hdistinct : (base.map KycRecord.id).Nodup) :
    ((ordered base).map KycRecord.id).Nodup :=
  (List.Perm.map _ (List.perm_insertionSort _ _)).nodup_iff.mpr hdistinct

theorem page_fresh (hdistinct : (base.map KycRecord.id).Nodup) {offset : ℕ} {r : KycRecord}
    (hr : r ∈ page base offset batchSize) : r.id ∉ firstIds base offset := by
  have hnodup : (((ordered base).take (offset + batchSize)).map KycRecord.id).Nodup :=
    List.Nodup.sublist (List.Sublist.map _ (List.take_sublist _ _)) (ordered_distinct hdistinct)
  rw [take_page, List.map_append] at hnodup
  intro hmem
  exact (List.nodup_append.mp hnodup).2.2 _ hmem _ (List.mem_map_of_mem hr) rfl

theorem page_unrotated (hdistinct : (base.map KycRecord.id).Nodup) (offset : ℕ) :
    page (base.map (rotatedAt service vectors old new (firstIds base offset))) offset batchSize =
      page base offset batchSize := by
  rw [page_map rotatedAt_id]
  conv_rhs => rw [← List.map_id (page base offset batchSize)]
  apply List.map_congr_left
  intro r hr
  exact if_neg (page_fresh hdistinct hr)

theorem page_updates {l : List KycRecord} (h : ∀ r ∈ l, Rotates service vectors old new r) :
    l.mapM (rotateRecord service vectors old new) =
      .ok (l.map fun r => (r.id, (rotated service vectors old new r).pii.wrappedDek)) := by
  rw [mapM_eq_ok, List.forall₂_map_right_iff, List.forall₂_same]
  intro r hr
  obtain ⟨w, hw⟩ := h r hr
  simp only [rotateRecord, rotated, hw]
  rfl

theorem page_error {l : List KycRecord} (h : ∃ r ∈ l, ¬ Rotates service vectors old new r) :
    ∃ e, l.mapM (rotateRecord service vectors old new) = .error e := by
  rcases ok_or_error (l.mapM (rotateRecord service vectors old new)) with ⟨updates, hok⟩ | herror
  · obtain ⟨r, hr, hnot⟩ := h
    exfalso
    apply hnot
    have hall := mapM_eq_ok.mp hok
    clear hok
    induction hall with
    | nil => cases hr
    | cons hab _ ih =>
      rcases List.mem_cons.mp hr with rfl | hr
      · simp only [rotateRecord, bind_eq_ok] at hab
        obtain ⟨w, hw, -⟩ := hab
        exact ⟨w, hw⟩
      · exact ih hr
  · exact herror

theorem lookup_page {l : List KycRecord} {g : KycRecord → Bytes}
    (hdistinct : (l.map KycRecord.id).Nodup) {r : KycRecord} (hr : r ∈ l) :
    (l.map fun r => (r.id, g r)).lookup r.id = some (g r) := by
  induction l with
  | nil => cases hr
  | cons a l ih =>
    rw [List.map_cons, List.nodup_cons] at hdistinct
    rw [List.map_cons, List.lookup_cons]
    rcases List.mem_cons.mp hr with rfl | hr
    · rw [beq_self_eq_true]
    · have hne : r.id ≠ a.id := by
        intro hid
        apply hdistinct.1
        rw [← hid]
        exact List.mem_map_of_mem hr
      rw [beq_false_of_ne hne]
      exact ih hdistinct.2 hr

theorem rewrap_rotated (r : KycRecord) :
    ({ r with pii := { r.pii with
      wrappedDek := (rotated service vectors old new r).pii.wrappedDek } } : KycRecord) =
      rotated service vectors old new r := by
  unfold rotated
  cases rotateRecordDek service (vectors r.id) r.pii.wrappedDek old new <;> rfl

theorem commit_page (hdistinct : (base.map KycRecord.id).Nodup) (offset : ℕ) :
    (base.map (rotatedAt service vectors old new (firstIds base offset))).map
        (KycRecord.rewrap ((page base offset batchSize).map fun r =>
          (r.id, (rotated service vectors old new r).pii.wrappedDek))) =
      base.map (rotatedAt service vectors old new (firstIds base (offset + batchSize))) := by
  have hsplit : firstIds base (offset + batchSize) =
      firstIds base offset ++ (page base offset batchSize).map KycRecord.id := by
    unfold firstIds
    rw [take_page, List.map_append]
  have hpage : ((page base offset batchSize).map KycRecord.id).Nodup := by
    have hsublist : (page base offset batchSize).Sublist (ordered base) :=
      (List.take_sublist _ _).trans (List.drop_sublist _ _)
    exact (ordered_distinct hdistinct).sublist (hsublist.map _)
  rw [List.map_map, hsplit]
  apply List.map_congr_left
  intro r hr
  simp only [Function.comp]
  by_cases hon : r.id ∈ (page base offset batchSize).map KycRecord.id
  · obtain ⟨q, hq, hid⟩ := List.mem_map.mp hon
    obtain rfl : q = r := List.inj_on_of_nodup_map hdistinct (mem_page hq) hr hid
    have hnot : q.id ∉ firstIds base offset := page_fresh hdistinct hq
    have hbefore : rotatedAt service vectors old new (firstIds base offset) q = q := if_neg hnot
    rw [hbefore, rotatedAt, if_pos (List.mem_append_right _ hon), KycRecord.rewrap,
      lookup_page hpage hq]
    exact rewrap_rotated q
  · have hnone : ((page base offset batchSize).map fun r =>
        (r.id, (rotated service vectors old new r).pii.wrappedDek)).lookup r.id = none := by
      rw [List.lookup_eq_none_iff]
      intro u hu
      obtain ⟨q, hq, rfl⟩ := List.mem_map.mp hu
      rw [bne_iff_ne]
      intro hid
      apply hon
      rw [hid]
      exact List.mem_map_of_mem hq
    rw [KycRecord.rewrap, rotatedAt_id, hnone]
    simp only [rotatedAt, List.mem_append, hon, or_false]

theorem commit_writing {s : KycStore} {p : ℕ} {r : Rotation} {updates : List (Uuid × Bytes)}
    (hr : s.rotations p = some r) (hphase : r.phase = .writing updates)
    (hthere : ∀ u ∈ updates, u.1 ∈ s.records.map KycRecord.id) :
    commit s p = { s.move p { r with
        offset := r.offset + r.batchSize
        totalRotated := r.totalRotated + updates.length
        phase := .selecting } with
      records := s.records.map (KycRecord.rewrap updates) } := by
  unfold commit
  rw [hr]
  dsimp only
  rw [hphase]
  exact if_pos hthere

theorem progress_round {p n : ℕ} {s : KycStore} (hdistinct : (base.map KycRecord.id).Nodup)
    (h : Progress service vectors old new p base batchSize n s)
    (hmore : page base (n * batchSize) batchSize ≠ [])
    (hrotates : ∀ r ∈ page base (n * batchSize) batchSize, Rotates service vectors old new r) :
    Progress service vectors old new p base batchSize (n + 1)
      (commit (select service s p vectors) p) := by
  have hselect : select service s p vectors = s.move p ⟨old, new, batchSize, n * batchSize,
      ((ordered base).take (n * batchSize)).length,
      .writing ((page base (n * batchSize) batchSize).map fun r =>
        (r.id, (rotated service vectors old new r).pii.wrappedDek))⟩ := by
    unfold select
    rw [h.rotation]
    dsimp only
    rw [h.records, page_unrotated hdistinct, if_neg hmore, page_updates hrotates]
  have hthere : ∀ u ∈ (page base (n * batchSize) batchSize).map (fun r =>
      (r.id, (rotated service vectors old new r).pii.wrappedDek)),
      u.1 ∈ s.records.map KycRecord.id := by
    intro u hu
    obtain ⟨r, hr, rfl⟩ := List.mem_map.mp hu
    rw [h.records, List.map_map, List.mem_map]
    exact ⟨r, mem_page hr, rotatedAt_id r⟩
  rw [hselect, commit_writing (s := s.move p _) (Function.update_self p _ _) rfl hthere]
  refine ⟨?_, ?_⟩
  · simp only [KycStore.move, Function.update_self, Option.some.injEq, Rotation.mk.injEq, true_and,
      and_true]
    rw [Nat.succ_mul, take_page, List.length_append, List.length_map]
    exact ⟨rfl, rfl⟩
  · simp only [KycStore.move]
    rw [h.records, commit_page hdistinct, Nat.succ_mul]

theorem progress_rounds {p : ℕ} {s : KycStore} (hdistinct : (s.records.map KycRecord.id).Nodup)
    (hstart : s.rotations p = some ⟨old, new, batchSize, 0, 0, .selecting⟩) (n : ℕ)
    (hmore : ∀ k < n, page s.records (k * batchSize) batchSize ≠ [])
    (hrotates : ∀ k < n, ∀ r ∈ page s.records (k * batchSize) batchSize,
      Rotates service vectors old new r) :
    Progress service vectors old new p s.records batchSize n
      ((kycRuns service).final s (rounds vectors p n)) := by
  induction n with
  | zero =>
    refine ⟨?_, ?_⟩
    · rw [Nat.zero_mul, List.take_zero]
      exact hstart
    · rw [Nat.zero_mul, firstIds, List.take_zero]
      exact (List.map_id _).symm
  | succ n ih =>
    have hbefore := ih (fun k hk => hmore k (by omega)) (fun k hk => hrotates k (by omega))
    have hstep := progress_round hdistinct hbefore (hmore n (by omega)) (hrotates n (by omega))
    rw [rounds, Machine.final_append]
    exact hstep

theorem select_last {p n : ℕ} {s : KycStore} (hdistinct : (base.map KycRecord.id).Nodup)
    (h : Progress service vectors old new p base batchSize n s)
    (hlast : page base (n * batchSize) batchSize = []) :
    select service s p vectors = s.move p ⟨old, new, batchSize, n * batchSize,
      ((ordered base).take (n * batchSize)).length, .returned⟩ := by
  unfold select
  rw [h.rotation]
  dsimp only
  rw [h.records, page_unrotated hdistinct, if_pos hlast]

theorem select_fails {p n : ℕ} {s : KycStore} (hdistinct : (base.map KycRecord.id).Nodup)
    (h : Progress service vectors old new p base batchSize n s)
    (hfails : ∃ r ∈ page base (n * batchSize) batchSize, ¬ Rotates service vectors old new r) :
    ∃ e, select service s p vectors = s.move p ⟨old, new, batchSize, n * batchSize,
      ((ordered base).take (n * batchSize)).length, .raised e⟩ := by
  obtain ⟨e, he⟩ := page_error hfails
  have hmore : page base (n * batchSize) batchSize ≠ [] := by
    obtain ⟨r, hr, -⟩ := hfails
    exact List.ne_nil_of_mem hr
  refine ⟨e, ?_⟩
  unfold select
  rw [h.rotation]
  dsimp only
  rw [h.records, page_unrotated hdistinct, if_neg hmore, he]

theorem exists_stop (hbatch : 1 ≤ batchSize) : ∃ n,
    (∀ k < n, page base (k * batchSize) batchSize ≠ [] ∧
      ∀ r ∈ page base (k * batchSize) batchSize, Rotates service vectors old new r) ∧
    (page base (n * batchSize) batchSize = [] ∨
      ∃ r ∈ page base (n * batchSize) batchSize, ¬ Rotates service vectors old new r) := by
  classical
  have hstop : ∃ n, page base (n * batchSize) batchSize = [] ∨
      ∃ r ∈ page base (n * batchSize) batchSize, ¬ Rotates service vectors old new r := by
    refine ⟨base.length, Or.inl ?_⟩
    have hlength : (ordered base).length ≤ base.length * batchSize := by
      rw [ordered, List.length_insertionSort]
      exact Nat.le_mul_of_pos_right _ hbatch
    rw [page, List.drop_of_length_le hlength, List.take_nil]
  refine ⟨Nat.find hstop, ?_, Nat.find_spec hstop⟩
  intro k hk
  have hmin := Nat.find_min hstop hk
  push Not at hmin
  exact hmin

theorem of_pages {P : KycRecord → Prop} {n : ℕ}
    (h : ∀ k < n, ∀ r ∈ page base (k * batchSize) batchSize, P r) :
    ∀ r ∈ (ordered base).take (n * batchSize), P r := by
  induction n with
  | zero =>
    rw [Nat.zero_mul, List.take_zero]
    intro r hr
    cases hr
  | succ n ih =>
    rw [Nat.succ_mul, take_page]
    intro r hr
    rcases List.mem_append.mp hr with hr | hr
    · exact ih (fun k hk => h k (by omega)) r hr
    · exact h n (by omega) r hr

theorem take_of_last {n : ℕ} (hbatch : 1 ≤ batchSize)
    (hlast : page base (n * batchSize) batchSize = []) :
    (ordered base).take (n * batchSize) = ordered base := by
  apply List.take_of_length_le
  rcases List.take_eq_nil_iff.mp hlast with hzero | hdrop
  · omega
  · exact List.drop_eq_nil_iff.mp hdrop

theorem mem_ordered {r : KycRecord} : r ∈ ordered base ↔ r ∈ base := List.mem_insertionSort _

theorem select_records (s : KycStore) (p : ℕ) (vectors : Uuid → ι) :
    (select service s p vectors).records = s.records := by
  unfold select
  cases s.rotations p with
  | none => rfl
  | some r =>
    dsimp only
    cases r.phase with
    | selecting =>
      dsimp only
      by_cases hempty : page s.records r.offset r.batchSize = []
      · rw [if_pos hempty]
        rfl
      · rw [if_neg hempty]
        cases (page s.records r.offset r.batchSize).mapM
          (rotateRecord service vectors r.old r.new) <;>
          rfl
    | writing updates => rfl
    | returned => rfl
    | raised e => rfl

theorem commit_ids (s : KycStore) (p : ℕ) :
    (commit s p).records.map KycRecord.id = s.records.map KycRecord.id := by
  have hrewrap : ∀ updates r, (KycRecord.rewrap updates r).id = r.id := by
    intro updates r
    unfold KycRecord.rewrap
    cases updates.lookup r.id <;> rfl
  unfold commit
  cases s.rotations p with
  | none => rfl
  | some r =>
    dsimp only
    cases r.phase with
    | writing updates =>
      dsimp only
      by_cases hthere : ∀ u ∈ updates, u.1 ∈ s.records.map KycRecord.id
      · rw [if_pos hthere, List.map_map]
        exact List.map_congr_left fun r _ => hrewrap _ r
      · rw [if_neg hthere]
        rfl
    | selecting => rfl
    | returned => rfl
    | raised e => rfl

theorem distinct_run (es : List (KycEvent ι)) :
    (((kycRuns service).final emptyKyc es).records.map KycRecord.id).Nodup := by
  have hkept : ∀ s e, (s.records.map KycRecord.id).Nodup →
      ((kycNext service s e).records.map KycRecord.id).Nodup := by
    intro s e h
    cases e with
    | submit x =>
      simp only [kycNext, submit]
      cases encryptPii service x.dek x.iv x.vector x.plaintext x.userId.str x.id.str x.kek with
      | error e => exact h
      | ok pii =>
        dsimp only
        by_cases hthere : x.id ∈ s.records.map KycRecord.id
        · rw [if_pos hthere]
          exact h
        · rw [if_neg hthere, List.map_append]
          exact List.Nodup.append h (List.nodup_singleton _)
            (List.disjoint_singleton.mpr hthere)
    | delete id => exact h.sublist (List.filter_sublist.map _)
    | start p old new batchSize => exact h
    | select p vectors => rwa [kycNext, select_records]
    | commit p => rwa [kycNext, commit_ids]
  apply final_of_each (P := fun s : KycStore => (s.records.map KycRecord.id).Nodup)
    (C := fun _ _ => True) (fun s e h _ => hkept s e h)
  · exact List.nodup_nil
  · exact each_of_forall (fun _ _ => trivial) _

end

/-- A rotation that nothing comes between goes through all records if each of them rotates.
Otherwise it raises at the first page with one that does not, and just the pages before that one
have been rotated. -/
theorem rotation_alone {ι : Type} (service : KeyService ι) (es : List (KycEvent ι)) (p : ℕ)
    (vectors : Uuid → ι) (old new : Kek) (batchSize : ℕ) (hbatch : 1 ≤ batchSize) :
    let s := (kycRuns service).final emptyKyc (es ++ [.start p old new batchSize])
    ∃ n r,
      let last := (kycRuns service).final s (rounds vectors p n ++ [.select p vectors])
      last.rotations p = some r ∧
      last.records =
        s.records.map (rotatedAt service vectors old new (firstIds s.records (n * batchSize))) ∧
      (∀ x ∈ (ordered s.records).take (n * batchSize), Rotates service vectors old new x) ∧
      ((∀ x ∈ s.records, Rotates service vectors old new x) → r.phase = .returned ∧
        r.totalRotated = s.records.length ∧
        last.records = s.records.map (rotated service vectors old new)) ∧
      ((∃ x ∈ s.records, ¬ Rotates service vectors old new x) → (∃ e, r.phase = .raised e) ∧
        ∃ x ∈ page s.records (n * batchSize) batchSize, ¬ Rotates service vectors old new x) := by
  intro s
  have hdistinct : (s.records.map KycRecord.id).Nodup := distinct_run _
  have hstart : s.rotations p = some ⟨old, new, batchSize, 0, 0, .selecting⟩ := by
    have hfinal : s = kycNext service ((kycRuns service).final emptyKyc es)
        (.start p old new batchSize) := by
      have happend := @Machine.final_append _ _ (kycRuns service) emptyKyc es
        [.start p old new batchSize]
      exact happend
    rw [hfinal]
    exact Function.update_self p _ _
  obtain ⟨n, hbefore, hstop⟩ :=
    @exists_stop ι service vectors old new s.records batchSize hbatch
  have hprogress := progress_rounds hdistinct hstart n
    (fun k hk => (hbefore k hk).1) (fun k hk => (hbefore k hk).2)
  have hfirst := of_pages fun k hk => (hbefore k hk).2
  have hfinal : (kycRuns service).final s (rounds vectors p n ++ [.select p vectors]) =
      select service ((kycRuns service).final s (rounds vectors p n)) p vectors := by
    rw [Machine.final_append]
    rfl
  have hrecords : (select service ((kycRuns service).final s (rounds vectors p n)) p
      vectors).records =
      s.records.map (rotatedAt service vectors old new (firstIds s.records (n * batchSize))) := by
    rw [select_records]
    exact hprogress.records
  rcases hstop with hlast | hfails
  · have hall := take_of_last hbatch hlast
    refine ⟨n, ⟨old, new, batchSize, n * batchSize,
      ((ordered s.records).take (n * batchSize)).length, .returned⟩, ?_⟩
    dsimp only
    rw [hfinal]
    refine ⟨?_, hrecords, hfirst, ?_, ?_⟩
    · rw [select_last hdistinct hprogress hlast]
      exact Function.update_self p _ _
    · intro _
      refine ⟨rfl, ?_, ?_⟩
      · rw [hall, ordered, List.length_insertionSort]
      · rw [hrecords]
        apply List.map_congr_left
        intro x hx
        apply if_pos
        rw [firstIds, hall]
        exact List.mem_map_of_mem (mem_ordered.mpr hx)
    · rintro ⟨x, hx, hnot⟩
      rw [hall] at hfirst
      exact absurd (hfirst x (mem_ordered.mpr hx)) hnot
  · obtain ⟨e, hselect⟩ := select_fails hdistinct hprogress hfails
    refine ⟨n, ⟨old, new, batchSize, n * batchSize,
      ((ordered s.records).take (n * batchSize)).length, .raised e⟩, ?_⟩
    dsimp only
    rw [hfinal]
    refine ⟨?_, hrecords, hfirst, ?_, ?_⟩
    · rw [hselect]
      exact Function.update_self p _ _
    · intro hrotates
      obtain ⟨x, hx, hnot⟩ := hfails
      exact absurd (hrotates x (mem_page hx)) hnot
    · intro _
      exact ⟨⟨e, rfl⟩, hfails⟩

def threeSubmissions : List (KycEvent Unit) :=
  [.submit annSubmission, .submit (submission 7 "444-55-6666" otherKek), .submit bobSubmission]

theorem ann_rotation_alone :
    let s := (kycRuns markingService).final emptyKyc
      (threeSubmissions ++ [.start 1 oldKek newKek 2])
    ∃ r e,
      let last := (kycRuns markingService).final s
        (rounds (fun _ => ()) 1 1 ++ [.select 1 fun _ => ()])
      last.rotations 1 = some r ∧ r.phase = .raised e ∧
      last.records = s.records.map
        (rotatedAt markingService (fun _ => ()) oldKek newKek
          [annSubmission.id, bobSubmission.id]) := by
  intro s
  obtain ⟨n, r, hr, hrecords, -, -, hraised⟩ :=
    rotation_alone markingService threeSubmissions 1 (fun _ => ()) oldKek newKek 2 (by decide)
  have hfails : ∃ x ∈ s.records, ¬ Rotates markingService (fun _ => ()) oldKek newKek x := by
    decide +kernel
  obtain ⟨⟨e, he⟩, x, hx, hnot⟩ := hraised hfails
  obtain rfl : n = 1 := by
    have hfirst : ∀ x ∈ page s.records 0 2,
        Rotates markingService (fun _ => ()) oldKek newKek x := by
      decide +kernel
    have hlength : s.records.length = 3 := by decide +kernel
    match n with
    | 0 => exact absurd (hfirst x hx) hnot
    | 1 => rfl
    | n + 2 =>
      have hnone : page s.records ((n + 2) * 2) 2 = [] := by
        rw [page, List.drop_of_length_le, List.take_nil]
        rw [ordered, List.length_insertionSort]
        omega
      rw [hnone] at hx
      cases hx
  have hfirstIds : firstIds s.records (1 * 2) = [annSubmission.id, bobSubmission.id] := by
    decide +kernel
  rw [hfirstIds] at hrecords
  exact ⟨r, e, hr, he, hrecords⟩

end BankingService.KeyRotation
