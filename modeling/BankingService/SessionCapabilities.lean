import BankingService.PythonValues
import BankingService.Library.Checked

/-! The encrypted capability of one voice session: minted for its bootstrap, and honoured under the
transport headers of that session for as long as it lasts. -/
namespace BankingService.SessionCapabilities

open Python Checked

inductive CapabilityException where
  | cesSessionCapabilityError (message : String)
  | typeError
  | attributeError
  | valueError
  deriving DecidableEq, Repr

def INVALID : CapabilityException :=
  .cesSessionCapabilityError "CES session capability is invalid."

def INVALID_OR_EXPIRED : CapabilityException :=
  .cesSessionCapabilityError "CES session capability is invalid or expired."

def INVALID_BINDING : CapabilityException :=
  .cesSessionCapabilityError "CES session capability binding is invalid."

def INVALID_IDENTITY : CapabilityException :=
  .cesSessionCapabilityError "CES session capability identity is invalid."

def CAPABILITY_PREFIX : String := "cescap1."
def CAPABILITY_VERSION : ℤ := 1
def CAPABILITY_ISSUER : String := "banking-service"
def CAPABILITY_AUDIENCE : String := "banking-service:mcp"

/-- How far ahead of the reader a token's own clock may be, in seconds. -/
def MAX_CLOCK_SKEW : ℕ := 60

/-- The encryption package. A token is made under a key and a random vector, and opened for a
lifetime at a time; `none` is its `InvalidToken`. -/
structure Fernet (κ ι : Type) where
  encryptAtTime : κ → ι → String → ℕ → String
  decryptAtTime : κ → String → ℤ → ℕ → Option String

def isTokenChar (c : Char) : Bool :=
  let n := c.toNat
  (48 ≤ n && n ≤ 57) || (65 ≤ n && n ≤ 90) || (97 ≤ n && n ≤ 122) || n == 45 || n == 95 || n == 61

structure Fernet.Lawful {κ ι : Type} (fernet : Fernet κ ι) : Prop where
  opens : ∀ key vector data (issued : ℕ) (ttl : ℤ) (now : ℕ),
    fernet.decryptAtTime key (fernet.encryptAtTime key vector data issued) ttl now =
      if issued + ttl < now ∨ now + MAX_CLOCK_SKEW < issued then none else some data
  spelled : ∀ key vector data issued,
    ∀ c ∈ (fernet.encryptAtTime key vector data issued).toList, isTokenChar c = true

/-- The service's configuration: the lifetime and the signing material as they are read, the key
derived from the material, and what Python makes of a JSON value of an unexpected type. -/
structure CapabilityConfig (κ ι : Type) where
  fernet : Fernet κ ι
  ttlSeconds : ℤ
  signingMaterial : String
  deriveKey : String → κ
  float : Json.Real → ℚ
  strOf : Json → String
  intOf : Json → Except CapabilityException ℤ

/-- The trusted context of a session that its capability is bound to. -/
structure SessionBinding where
  supportSessionId : String
  runtimeName : String
  runtimeSessionId : String
  resetGeneration : String
  cesAppId : String
  cesVersionOrDeploymentId : String
  deriving DecidableEq, Repr

structure CesSessionBootstrap where
  customerIdentity : String
  customerId : String
  binding : SessionBinding

structure CesSessionCapabilityClaims where
  customerIdentity : String
  customerId : String
  binding : SessionBinding
  issuedAt : ℤ
  expiresAt : ℤ
  deriving DecidableEq, Repr

section

variable {κ ι : Type} (config : CapabilityConfig κ ι)

def CapabilityConfig.ttl : Except CapabilityException ℤ := do
  require (60 ≤ config.ttlSeconds ∧ config.ttlSeconds ≤ 3600)
    (.cesSessionCapabilityError "CES session capability TTL is invalid.")
  return config.ttlSeconds

def CapabilityConfig.key : Except CapabilityException κ := do
  let value := strip config.signingMaterial
  require (32 ≤ value.length)
    (.cesSessionCapabilityError "CES session capability signing material is invalid.")
  return config.deriveKey value

def payloadOf (bootstrap : CesSessionBootstrap) (issuedAt expiresAt : ℤ) : Json :=
  .obj [("v", .int CAPABILITY_VERSION), ("iss", .str CAPABILITY_ISSUER),
    ("aud", .str CAPABILITY_AUDIENCE), ("iat", .int issuedAt), ("exp", .int expiresAt),
    ("customer_identity", .str bootstrap.customerIdentity),
    ("customer_id", .str bootstrap.customerId),
    ("support_session_id", .str bootstrap.binding.supportSessionId),
    ("runtime_name", .str bootstrap.binding.runtimeName),
    ("runtime_session_id", .str bootstrap.binding.runtimeSessionId),
    ("reset_generation", .str bootstrap.binding.resetGeneration),
    ("ces_app_id", .str bootstrap.binding.cesAppId),
    ("ces_version_or_deployment_id", .str bootstrap.binding.cesVersionOrDeploymentId)]

def mintCesSessionCapability (vector : ι) (bootstrap : CesSessionBootstrap) (now : ℕ) :
    Except CapabilityException String := do
  let ttl ← config.ttl
  let key ← config.key
  return CAPABILITY_PREFIX ++
    config.fernet.encryptAtTime key vector (Json.dumps (payloadOf bootstrap now (now + ttl))) now

/-- `str(value or "")` -/
def CapabilityConfig.text : Option Json → String
  | some (.str s) => s
  | some j => if Python.truthy j then config.strOf j else ""
  | none => ""

/-- `int(value or 0)` -/
def CapabilityConfig.integer : Option Json → Except CapabilityException ℤ
  | some (.int n) => .ok n
  | some j => if Python.truthy j then config.intOf j else .ok 0
  | none => .ok 0

def isAscii (s : String) : Bool := s.toList.all fun c => c.toNat < 128

def isOneLine (s : String) : Bool := s.toList.all fun c => c != '\r' && c != '\n'

def headerValue (headers : List (String × String)) (name : String) : String :=
  ((headers.reverse.find? fun h => lower h.1 = name).map Prod.snd).getD ""

def requiredHeader (headers : List (String × String)) (name : String) :
    Except CapabilityException String := do
  let value := strip (headerValue headers name)
  require (value ≠ "" ∧ value.length ≤ 512 ∧ isOneLine value = true) INVALID_BINDING
  return value

def readBinding (headers : List (String × String)) : Except CapabilityException SessionBinding := do
  let supportSessionId ← requiredHeader headers "x-support-session-id"
  let runtimeName ← requiredHeader headers "x-runtime-name"
  let runtimeSessionId ← requiredHeader headers "x-runtime-session-id"
  let resetGeneration ← requiredHeader headers "x-reset-generation"
  let cesAppId ← requiredHeader headers "x-ces-app-id"
  let cesVersionOrDeploymentId ← requiredHeader headers "x-ces-version-or-deployment-id"
  return ⟨supportSessionId, runtimeName, runtimeSessionId, resetGeneration, cesAppId,
    cesVersionOrDeploymentId⟩

/-- `hmac.compare_digest` takes no text outside ASCII. -/
def compareDigest (a b : String) : Except CapabilityException Bool := do
  require (isAscii a = true ∧ isAscii b = true) .typeError
  return a = b

def compareClaim (payload : Json) (name value : String) : Except CapabilityException Unit := do
  let same ← compareDigest (config.text (payload.get name)) value
  require (same = true) INVALID_BINDING

def checkBinding (payload : Json) (b : SessionBinding) : Except CapabilityException Unit := do
  compareClaim config payload "support_session_id" b.supportSessionId
  compareClaim config payload "runtime_name" b.runtimeName
  compareClaim config payload "runtime_session_id" b.runtimeSessionId
  compareClaim config payload "reset_generation" b.resetGeneration
  compareClaim config payload "ces_app_id" b.cesAppId
  compareClaim config payload "ces_version_or_deployment_id" b.cesVersionOrDeploymentId

/-- `payload.get(name) == value` -/
def hasValue (payload : Json) (name : String) (value : Json) : Prop :=
  ∃ j ∈ payload.get name, Python.equal config.float j value = true

instance (payload : Json) (name : String) (value : Json) :
    Decidable (hasValue config payload name value) :=
  inferInstanceAs (Decidable (∃ j ∈ payload.get name, Python.equal config.float j value = true))

def openToken (token : String) (now : ℕ) : Except CapabilityException Json := do
  let value := strip token
  require (CAPABILITY_PREFIX.toList.isPrefixOf value.toList = true) INVALID
  let key ← config.key
  let rest := String.ofList (value.toList.drop CAPABILITY_PREFIX.length)
  require (isAscii rest = true) INVALID_OR_EXPIRED
  let ttl ← config.ttl
  let raw ← orRaise (config.fernet.decryptAtTime key rest ttl now) INVALID_OR_EXPIRED
  orRaise (Json.loads raw) INVALID_OR_EXPIRED

def checkPayload (payload : Json) (now : ℕ) : Except CapabilityException Unit := do
  match payload with
  | .obj _ =>
    require (hasValue config payload "v" (.int CAPABILITY_VERSION) ∧
        hasValue config payload "iss" (.str CAPABILITY_ISSUER) ∧
        hasValue config payload "aud" (.str CAPABILITY_AUDIENCE)) INVALID_OR_EXPIRED
    let expires ← config.integer (payload.get "exp")
    require (now ≤ expires) INVALID_OR_EXPIRED
  | _ => .error .attributeError

def validateCesSessionCapability (token : String) (headers : List (String × String)) (now : ℕ) :
    Except CapabilityException CesSessionCapabilityClaims := do
  let payload ← openToken config token now
  checkPayload config payload now
  let binding ← readBinding headers
  checkBinding config payload binding
  let customerIdentity := strip (config.text (payload.get "customer_identity"))
  let customerId := strip (config.text (payload.get "customer_id"))
  require (customerIdentity ≠ "" ∧ customerId ≠ "") INVALID_IDENTITY
  let issuedAt ← config.integer (payload.get "iat")
  let expiresAt ← config.integer (payload.get "exp")
  return ⟨customerIdentity, customerId, binding, issuedAt, expiresAt⟩

end

theorem tokenChar_plain {c : Char} (h : isTokenChar c = true) :
    isSpace c = false ∧ c.toNat < 128 := by
  unfold isTokenChar at h
  unfold isSpace
  simp only [Bool.or_eq_true, Bool.and_eq_true, decide_eq_true_eq, beq_iff_eq] at h
  simp only [Bool.or_eq_false_iff, Bool.and_eq_false_iff, decide_eq_false_iff_not,
    beq_eq_false_iff_ne]
  omega

theorem prefix_plain : ∀ c ∈ CAPABILITY_PREFIX.toList, isSpace c = false := by
  have hall : CAPABILITY_PREFIX.toList.all (fun c => !isSpace c) = true := by decide
  intro c hc
  simpa using List.all_eq_true.mp hall c hc

section Tokens

variable {κ ι : Type} {config : CapabilityConfig κ ι} {bootstrap : CesSessionBootstrap}
  {vector : ι} {issued now : ℕ} {token : String} {headers : List (String × String)}

theorem strip_plain {s : String} (h : ∀ c ∈ s.toList, isSpace c = false) : strip s = s := by
  unfold strip
  rw [Uuid.stripChars_eq_self h, String.ofList_toList]

theorem openToken_minted (hlawful : config.fernet.Lawful)
    (hmint : mintCesSessionCapability config vector bootstrap issued = .ok token) :
    openToken config token now =
      if issued + config.ttlSeconds < now ∨ now + MAX_CLOCK_SKEW < issued then
        .error INVALID_OR_EXPIRED
      else .ok (payloadOf bootstrap issued (issued + config.ttlSeconds)).sorted := by
  simp only [mintCesSessionCapability, bind_eq_ok, pure_eq_ok] at hmint
  obtain ⟨ttl, httl, key, hkey, rfl⟩ := hmint
  have hseconds : ttl = config.ttlSeconds := by
    simp only [CapabilityConfig.ttl, bind_eq_ok, require_eq_ok, exists_const, pure_eq_ok] at httl
    exact httl.2.symm
  subst hseconds
  have hspelled := hlawful.spelled key vector
    (Json.dumps (payloadOf bootstrap issued (issued + config.ttlSeconds))) issued
  have hopens := hlawful.opens key vector
    (Json.dumps (payloadOf bootstrap issued (issued + config.ttlSeconds))) issued
    config.ttlSeconds now
  generalize hbody : config.fernet.encryptAtTime key vector
    (Json.dumps (payloadOf bootstrap issued (issued + config.ttlSeconds))) issued = body
    at hspelled hopens
  have hstrip : strip (CAPABILITY_PREFIX ++ body) = CAPABILITY_PREFIX ++ body := by
    apply strip_plain
    intro c hc
    rw [String.toList_append, List.mem_append] at hc
    rcases hc with hc | hc
    · exact prefix_plain c hc
    · exact (tokenChar_plain (hspelled c hc)).1
  have hrest : String.ofList ((CAPABILITY_PREFIX ++ body).toList.drop CAPABILITY_PREFIX.length) =
      body := by
    rw [String.toList_append, ← String.length_toList, List.drop_left, String.ofList_toList]
  have hascii : isAscii body = true := by
    unfold isAscii
    rw [List.all_eq_true]
    intro c hc
    simpa using (tokenChar_plain (hspelled c hc)).2
  have hprefix : CAPABILITY_PREFIX.toList.isPrefixOf (CAPABILITY_PREFIX ++ body).toList = true := by
    rw [String.toList_append]
    exact List.isPrefixOf_iff_prefix.mpr (List.prefix_append _ _)
  unfold openToken
  rw [hstrip]
  dsimp only
  rw [require_of hprefix, ok_bind, hkey, ok_bind, hrest, require_of hascii, ok_bind, httl, ok_bind,
    hopens]
  by_cases hlate : issued + config.ttlSeconds < now ∨ now + MAX_CLOCK_SKEW < issued
  · rw [if_pos hlate, if_pos hlate]
    rfl
  · rw [if_neg hlate, if_neg hlate]
    have hparse := Json.loads_dumps (payloadOf bootstrap issued (issued + config.ttlSeconds))
    rw [orRaise_eq_ok.mpr rfl, ok_bind, orRaise_eq_ok.mpr hparse]

theorem payload_distinct (issuedAt expiresAt : ℤ) :
    ∃ fields, payloadOf bootstrap issuedAt expiresAt = .obj fields ∧
      (fields.map Prod.fst).Nodup := by
  refine ⟨_, rfl, ?_⟩
  simp only [List.map_cons, List.map_nil]
  decide

theorem get_payload {issuedAt expiresAt : ℤ} {name : String} {j : Json}
    (h : (payloadOf bootstrap issuedAt expiresAt).get name = some j) :
    (payloadOf bootstrap issuedAt expiresAt).sorted.get name = some j.sorted := by
  obtain ⟨fields, hfields, hdistinct⟩ := @payload_distinct bootstrap issuedAt expiresAt
  rw [hfields] at h ⊢
  rw [Json.get_sorted hdistinct, h]
  rfl

theorem get_payload_int {issuedAt expiresAt n : ℤ} {name : String}
    (h : (payloadOf bootstrap issuedAt expiresAt).get name = some (.int n)) :
    (payloadOf bootstrap issuedAt expiresAt).sorted.get name = some (.int n) := by
  rw [get_payload h]
  simp [Json.sorted]

theorem get_payload_str {issuedAt expiresAt : ℤ} {name text : String}
    (h : (payloadOf bootstrap issuedAt expiresAt).get name = some (.str text)) :
    (payloadOf bootstrap issuedAt expiresAt).sorted.get name = some (.str text) := by
  rw [get_payload h]
  simp [Json.sorted]

theorem checkPayload_minted {issuedAt expiresAt : ℤ} :
    checkPayload config (payloadOf bootstrap issuedAt expiresAt).sorted now = .ok () ↔
      now ≤ expiresAt := by
  have hversion : (payloadOf bootstrap issuedAt expiresAt).sorted.get "v" =
      some (.int CAPABILITY_VERSION) := get_payload_int rfl
  have hissuer : (payloadOf bootstrap issuedAt expiresAt).sorted.get "iss" =
      some (.str CAPABILITY_ISSUER) := get_payload_str rfl
  have haudience : (payloadOf bootstrap issuedAt expiresAt).sorted.get "aud" =
      some (.str CAPABILITY_AUDIENCE) := get_payload_str rfl
  have hexpires : (payloadOf bootstrap issuedAt expiresAt).sorted.get "exp" =
      some (.int expiresAt) := get_payload_int rfl
  have hobject : ∃ fields, (payloadOf bootstrap issuedAt expiresAt).sorted = .obj fields := ⟨_, rfl⟩
  generalize (payloadOf bootstrap issuedAt expiresAt).sorted = payload at *
  obtain ⟨fields, rfl⟩ := hobject
  have hvalues : hasValue config (.obj fields) "v" (.int CAPABILITY_VERSION) ∧
      hasValue config (.obj fields) "iss" (.str CAPABILITY_ISSUER) ∧
      hasValue config (.obj fields) "aud" (.str CAPABILITY_AUDIENCE) := by
    refine ⟨⟨_, hversion, ?_⟩, ⟨_, hissuer, ?_⟩, ⟨_, haudience, ?_⟩⟩
    · simp [Python.equal, Python.numeric]
    · simp [Python.equal]
    · simp [Python.equal]
  unfold checkPayload
  rw [require_of hvalues, ok_bind, hexpires]
  simp only [CapabilityConfig.integer, ok_bind, require_eq_ok]

/-- A header that binds the value: the value itself once the header is trimmed, in printable
length and in ASCII. -/
structure Carries (headers : List (String × String)) (name value : String) : Prop where
  read : strip (headerValue headers name) = value
  given : value ≠ ""
  size : value.length ≤ 512
  oneLine : isOneLine value = true
  ascii : isAscii value = true

structure CarriesBinding (headers : List (String × String)) (b : SessionBinding) : Prop where
  supportSession : Carries headers "x-support-session-id" b.supportSessionId
  runtime : Carries headers "x-runtime-name" b.runtimeName
  runtimeSession : Carries headers "x-runtime-session-id" b.runtimeSessionId
  generation : Carries headers "x-reset-generation" b.resetGeneration
  app : Carries headers "x-ces-app-id" b.cesAppId
  version : Carries headers "x-ces-version-or-deployment-id" b.cesVersionOrDeploymentId

theorem requiredHeader_eq_ok {name value : String} : requiredHeader headers name = .ok value ↔
    strip (headerValue headers name) = value ∧ value ≠ "" ∧ value.length ≤ 512 ∧
      isOneLine value = true := by
  simp only [requiredHeader, bind_eq_ok, require_eq_ok, exists_const, pure_eq_ok]
  constructor
  · rintro ⟨h, rfl⟩
    exact ⟨rfl, h⟩
  · rintro ⟨rfl, h⟩
    exact ⟨h, rfl⟩

theorem compareClaim_eq_ok {payload : Json} {name value claim : String}
    (hclaim : payload.get name = some (.str claim)) :
    compareClaim config payload name value = .ok () ↔ claim = value ∧ isAscii claim = true := by
  simp only [compareClaim, compareDigest, hclaim, CapabilityConfig.text, bind_eq_ok, require_eq_ok,
    exists_const, pure_eq_ok]
  constructor
  · rintro ⟨same, ⟨hascii, rfl⟩, hsame⟩
    exact ⟨of_decide_eq_true hsame, hascii.1⟩
  · rintro ⟨rfl, hascii⟩
    exact ⟨true, ⟨⟨hascii, hascii⟩, decide_eq_true rfl⟩, rfl⟩

theorem carries_iff {payload : Json} {header name value claim : String}
    (hclaim : payload.get name = some (.str claim)) :
    requiredHeader headers header = .ok value ∧
      compareClaim config payload name value = .ok () ↔
    value = claim ∧ Carries headers header claim := by
  rw [requiredHeader_eq_ok, compareClaim_eq_ok hclaim]
  constructor
  · rintro ⟨⟨hread, hgiven, hsize, hline⟩, rfl, hascii⟩
    exact ⟨rfl, hread, hgiven, hsize, hline, hascii⟩
  · rintro ⟨rfl, h⟩
    exact ⟨⟨h.read, h.given, h.size, h.oneLine⟩, rfl, h.ascii⟩

theorem binding_iff {issuedAt expiresAt : ℤ} {b : SessionBinding} :
    readBinding headers = .ok b ∧
      checkBinding config (payloadOf bootstrap issuedAt expiresAt).sorted b = .ok () ↔
    b = bootstrap.binding ∧ CarriesBinding headers bootstrap.binding := by
  have hget := fun (name text : String) =>
    @get_payload_str bootstrap issuedAt expiresAt name text
  have hsupport := hget "support_session_id" _ rfl
  have hruntime := hget "runtime_name" _ rfl
  have hsession := hget "runtime_session_id" _ rfl
  have hgeneration := hget "reset_generation" _ rfl
  have happ := hget "ces_app_id" _ rfl
  have hversion := hget "ces_version_or_deployment_id" _ rfl
  generalize (payloadOf bootstrap issuedAt expiresAt).sorted = payload at *
  simp only [readBinding, checkBinding, bind_eq_ok, pure_eq_ok]
  constructor
  · rintro ⟨⟨s, hs, r, hr, t, ht, g, hg, a, ha, v, hv, rfl⟩,
      ⟨⟩, hcs, ⟨⟩, hcr, ⟨⟩, hct, ⟨⟩, hcg, ⟨⟩, hca, hcv⟩
    obtain ⟨rfl, h₁⟩ := (carries_iff hsupport).mp ⟨hs, hcs⟩
    obtain ⟨rfl, h₂⟩ := (carries_iff hruntime).mp ⟨hr, hcr⟩
    obtain ⟨rfl, h₃⟩ := (carries_iff hsession).mp ⟨ht, hct⟩
    obtain ⟨rfl, h₄⟩ := (carries_iff hgeneration).mp ⟨hg, hcg⟩
    obtain ⟨rfl, h₅⟩ := (carries_iff happ).mp ⟨ha, hca⟩
    obtain ⟨rfl, h₆⟩ := (carries_iff hversion).mp ⟨hv, hcv⟩
    exact ⟨rfl, h₁, h₂, h₃, h₄, h₅, h₆⟩
  · rintro ⟨rfl, h⟩
    obtain ⟨hs, hcs⟩ := (carries_iff hsupport).mpr ⟨rfl, h.supportSession⟩
    obtain ⟨hr, hcr⟩ := (carries_iff hruntime).mpr ⟨rfl, h.runtime⟩
    obtain ⟨ht, hct⟩ := (carries_iff hsession).mpr ⟨rfl, h.runtimeSession⟩
    obtain ⟨hg, hcg⟩ := (carries_iff hgeneration).mpr ⟨rfl, h.generation⟩
    obtain ⟨ha, hca⟩ := (carries_iff happ).mpr ⟨rfl, h.app⟩
    obtain ⟨hv, hcv⟩ := (carries_iff hversion).mpr ⟨rfl, h.version⟩
    exact ⟨⟨_, hs, _, hr, _, ht, _, hg, _, ha, _, hv, rfl⟩,
      (), hcs, (), hcr, (), hct, (), hcg, (), hca, hcv⟩

/-- What a capability attests: the customer and the session it was minted for. -/
def claimsOf (bootstrap : CesSessionBootstrap) (issuedAt expiresAt : ℤ) :
    CesSessionCapabilityClaims :=
  ⟨strip bootstrap.customerIdentity, strip bootstrap.customerId, bootstrap.binding, issuedAt,
    expiresAt⟩

end Tokens

/-- What a capability is honoured for: its lifetime, and the headers of the session it was
minted for. -/
theorem validate_minted {κ ι : Type} (config : CapabilityConfig κ ι)
    (hlawful : config.fernet.Lawful) (vector : ι) (bootstrap : CesSessionBootstrap) (issued : ℕ)
    (token : String) (hmint : mintCesSessionCapability config vector bootstrap issued = .ok token)
    (headers : List (String × String)) (now : ℕ) (claims : CesSessionCapabilityClaims) :
    validateCesSessionCapability config token headers now = .ok claims ↔
      (now ≤ issued + config.ttlSeconds ∧ issued ≤ now + MAX_CLOCK_SKEW) ∧
      CarriesBinding headers bootstrap.binding ∧
      (strip bootstrap.customerIdentity ≠ "" ∧ strip bootstrap.customerId ≠ "") ∧
      claims = claimsOf bootstrap issued (issued + config.ttlSeconds) := by
  have hidentity := @get_payload_str bootstrap issued (issued + config.ttlSeconds)
    "customer_identity" _ rfl
  have hid := @get_payload_str bootstrap issued (issued + config.ttlSeconds) "customer_id" _ rfl
  have hissued := @get_payload_int bootstrap issued (issued + config.ttlSeconds) _ "iat" rfl
  have hexpires := @get_payload_int bootstrap issued (issued + config.ttlSeconds) _ "exp" rfl
  have hpayload := @checkPayload_minted κ ι config bootstrap now issued (issued + config.ttlSeconds)
  have hbinding := fun b =>
    @binding_iff κ ι config bootstrap headers issued (issued + config.ttlSeconds) b
  unfold validateCesSessionCapability
  rw [openToken_minted hlawful hmint]
  generalize (payloadOf bootstrap issued (issued + config.ttlSeconds)).sorted = payload at *
  by_cases hlate : issued + config.ttlSeconds < now ∨ now + MAX_CLOCK_SKEW < issued
  · rw [if_pos hlate]
    constructor
    · intro h
      cases h
    · rintro ⟨⟨hend, hstart⟩, -⟩
      omega
  · rw [if_neg hlate, ok_bind]
    simp only [bind_eq_ok, require_eq_ok, pure_eq_ok, hidentity, hid, hissued, hexpires,
      CapabilityConfig.text, CapabilityConfig.integer, Except.ok.injEq, exists_eq_left']
    constructor
    · rintro ⟨⟨⟩, hpaid, b, hread, ⟨⟩, hcheck, ⟨⟩, hcustomer, rfl⟩
      obtain ⟨rfl, hcarries⟩ := (hbinding b).mp ⟨hread, hcheck⟩
      have hend := hpayload.mp hpaid
      exact ⟨⟨hend, by omega⟩, hcarries, hcustomer, rfl⟩
    · rintro ⟨⟨hend, hstart⟩, hcarries, hcustomer, rfl⟩
      obtain ⟨hread, hcheck⟩ := (hbinding bootstrap.binding).mpr ⟨rfl, hcarries⟩
      exact ⟨(), hpayload.mpr hend, _, hread, (), hcheck, (), hcustomer, rfl⟩

def unary (n : ℕ) : List Char := List.replicate n 'A' ++ ['-']

def runsFrom : ℕ → List Char → List ℕ
  | _, [] => []
  | n, c :: cs => if c = '-' then n :: runsFrom 0 cs else runsFrom (n + 1) cs

theorem runsFrom_unary (n k : ℕ) (cs : List Char) :
    runsFrom k (unary n ++ cs) = (k + n) :: runsFrom 0 cs := by
  induction n generalizing k with
  | zero => rfl
  | succ n ih =>
    have hnext : runsFrom k (unary (n + 1) ++ cs) = runsFrom (k + 1) (unary n ++ cs) := rfl
    rw [hnext, ih]
    congr 1
    omega

theorem runsFrom_flatMap (ns : List ℕ) : runsFrom 0 (ns.flatMap unary) = ns := by
  induction ns with
  | nil => rfl
  | cons n ns ih => rw [List.flatMap_cons, runsFrom_unary, ih, Nat.zero_add]

def plainFernet : Fernet Unit Unit where
  encryptAtTime _ _ data issued :=
    String.ofList ((issued :: data.toList.map Char.toNat).flatMap unary)
  decryptAtTime _ token ttl now :=
    match runsFrom 0 token.toList with
    | issued :: codes =>
      if issued + ttl < now ∨ now + MAX_CLOCK_SKEW < issued then none
      else some (String.ofList (codes.map Char.ofNat))
    | [] => none

theorem plainFernet_lawful : plainFernet.Lawful := by
  constructor
  · intro key vector data issued ttl now
    have hcodes : (data.toList.map Char.toNat).map Char.ofNat = data.toList := by
      rw [List.map_map]
      conv_rhs => rw [← List.map_id data.toList]
      apply List.map_congr_left
      intro c _
      exact Char.ofNat_toNat c
    simp only [plainFernet, String.toList_ofList, runsFrom_flatMap, hcodes, String.ofList_toList]
  · intro key vector data issued c hc
    simp only [plainFernet, String.toList_ofList, List.mem_flatMap] at hc
    obtain ⟨n, -, hc⟩ := hc
    rcases List.mem_append.mp hc with hc | hc
    · rw [(List.mem_replicate.mp hc).2]
      rfl
    · rw [List.mem_singleton.mp hc]
      rfl

def demoConfig : CapabilityConfig Unit Unit where
  fernet := plainFernet
  ttlSeconds := 900
  signingMaterial := "0123456789abcdef0123456789abcdef"
  deriveKey _ := ()
  float _ := 0
  strOf _ := ""
  intOf _ := .error .typeError

end BankingService.SessionCapabilities
