import BankingService.Library.Numerals
import BankingService.SessionCapabilities
import Mathlib.Data.List.DropRight

/-! The reset generations of the demo. A reset of everything or of one customer starts a new
generation, and what was minted in an old one is refused. -/
namespace BankingService.ResetGenerations

open Python Checked SessionCapabilities

/-- A row of `reset_epochs`, by its scope. -/
inductive ResetScope where
  | everyone
  | customer (id : String)
  deriving DecidableEq, Repr

abbrev ResetEpochs := ResetScope → Option ℕ

structure ResetGeneration where
  globalEpoch : ℕ
  customerEpoch : ℕ
  deriving DecidableEq, Repr

def ResetGeneration.token (g : ResetGeneration) : String :=
  toString g.globalEpoch ++ ":" ++ toString g.customerEpoch

/-- Only PostgreSQL keeps epochs. -/
def getResetGeneration (postgresql : Bool) (epochs : ResetEpochs) (customerId : String) :
    ResetGeneration :=
  if postgresql then ⟨(epochs .everyone).getD 0, (epochs (.customer customerId)).getD 0⟩ else ⟨0, 0⟩

def bumpResetGeneration (postgresql : Bool) (scope : ResetScope) (epochs : ResetEpochs) :
    ResetEpochs :=
  if postgresql then
    fun s => if s = scope then some ((epochs scope).elim 1 (· + 1)) else epochs s
  else epochs

def bumpCustomerResetGeneration (postgresql : Bool) (customerId : String) (epochs : ResetEpochs) :
    ResetEpochs := bumpResetGeneration postgresql (.customer customerId) epochs

def bumpGlobalResetGeneration (postgresql : Bool) (epochs : ResetEpochs) : ResetEpochs :=
  bumpResetGeneration postgresql .everyone epochs

def reset (postgresql : Bool) (epochs : ResetEpochs) : ResetScope → ResetEpochs
  | .everyone => bumpGlobalResetGeneration postgresql epochs
  | .customer id => bumpCustomerResetGeneration postgresql id epochs

/-- Whether a reset of the scope is one of the customer's data. -/
def ResetScope.Concerns (customerId : String) (scope : ResetScope) : Prop :=
  scope = .everyone ∨ scope = .customer customerId

instance (customerId : String) : DecidablePred (ResetScope.Concerns customerId) :=
  fun _ => inferInstanceAs (Decidable (_ ∨ _))

theorem toDigits_injective : Function.Injective (Nat.toDigits 10) := by
  intro m n h
  rw [← @Nat.ofDigitChars_ten_toDigits m, h, Nat.ofDigitChars_ten_toDigits]

/-- The colon is no digit, so a token can be taken apart in one way only. -/
theorem token_injective : Function.Injective ResetGeneration.token := by
  intro a b h
  have hlist : Nat.toDigits 10 a.globalEpoch ++ ':' :: Nat.toDigits 10 a.customerEpoch =
      Nat.toDigits 10 b.globalEpoch ++ ':' :: Nat.toDigits 10 b.customerEpoch := by
    have htext := congrArg String.toList h
    simpa [ResetGeneration.token, String.toList_append] using htext
  have hcolon : ∀ n, ':' ∉ Nat.toDigits 10 n := by
    intro n hn
    exact absurd (Numerals.isDigit_of_mem_toDigits hn) (by decide)
  obtain ⟨hglobal, -, hcustomer⟩ :=
    (List.append_cons_inj_of_notMem (hcolon _) (hcolon _)).mp hlist
  cases a
  cases b
  rw [ResetGeneration.mk.injEq]
  exact ⟨toDigits_injective hglobal, toDigits_injective hcustomer⟩

theorem epoch_reset (epochs : ResetEpochs) (scope s : ResetScope) :
    ((reset true epochs scope) s).getD 0 = (epochs s).getD 0 + if scope = s then 1 else 0 := by
  have hbump : reset true epochs scope = bumpResetGeneration true scope epochs := by
    cases scope <;> rfl
  rw [hbump, bumpResetGeneration, if_pos rfl]
  by_cases hs : s = scope
  · subst hs
    rw [if_pos rfl, if_pos rfl]
    cases epochs s <;> rfl
  · rw [if_neg hs, if_neg (Ne.symm hs)]
    rfl

def afterResets (postgresql : Bool) (epochs : ResetEpochs) (resets : List ResetScope) :
    ResetEpochs := resets.foldl (reset postgresql) epochs

theorem epoch_after (epochs : ResetEpochs) (resets : List ResetScope) (s : ResetScope) :
    (afterResets true epochs resets s).getD 0 = (epochs s).getD 0 + resets.count s := by
  induction resets generalizing epochs with
  | nil => rfl
  | cons scope resets ih =>
    have hstep := epoch_reset epochs scope s
    have hrest := ih (reset true epochs scope)
    have hcons : afterResets true epochs (scope :: resets) =
        afterResets true (reset true epochs scope) resets := rfl
    rw [hcons, hrest, hstep, List.count_cons]
    simp only [beq_iff_eq]
    omega

/-- A generation comes back only if no reset concerned the customer. -/
theorem generation_unchanged (postgresql : Bool) (epochs : ResetEpochs)
    (resets : List ResetScope) (customerId : String) :
    (getResetGeneration postgresql (afterResets postgresql epochs resets) customerId).token =
        (getResetGeneration postgresql epochs customerId).token ↔
      (postgresql = true → ∀ scope ∈ resets, ¬ scope.Concerns customerId) := by
  rw [token_injective.eq_iff]
  cases postgresql with
  | false =>
    constructor
    · rintro - ⟨⟩
    · intro _
      rfl
  | true =>
    have hglobal := epoch_after epochs resets .everyone
    have hcustomer := epoch_after epochs resets (.customer customerId)
    simp only [getResetGeneration, if_pos, ResetGeneration.mk.injEq, hglobal, hcustomer,
      forall_const, Nat.add_eq_left, List.count_eq_zero]
    constructor
    · rintro ⟨heveryone, hthis⟩ scope hscope (rfl | rfl)
      · exact heveryone hscope
      · exact hthis hscope
    · intro h
      exact ⟨fun hmem => h _ hmem (.inl rfl), fun hmem => h _ hmem (.inr rfl)⟩

def CES_RUNTIME_NAME : String := "CES_GEMINI_LIVE"

/-- `parts[parts.index(name) + 1]`, which has to be there and to be given. -/
def partAfter (parts : List String) (name message : String) : Except String String := do
  let part := (parts[parts.idxOf name + 1]?).getD ""
  require (part ≠ "") message
  return part

def cesResourceIdentity (resourceName : String) : Except String (String × String) := do
  let value := strip resourceName
  require (value ≠ "") "CES application configuration is missing."
  let parts := (value.toList.splitOn '/').map String.ofList
  if "apps" ∈ parts then do
    let appId ← partAfter parts "apps" "CES application resource is malformed."
    if "deployments" ∈ parts then do
      let deployment ← partAfter parts "deployments" "CES deployment resource is malformed."
      return (appId, deployment)
    else return (appId, "UNPINNED_APP")
  else do
    require ('/' ∉ value.toList) "CES application resource is malformed."
    return (value, "UNPINNED_APP")

/-- What a consultation starts from: the signed-in identity, the runtime's session, the configured
application and the support session to go on with. -/
structure BootstrapRequest where
  authProviderUid : String
  runtimeSessionId : String
  gecxAppId : String
  supportSessionId : Option String

/-- The session's trusted context. `users` finds a customer by the identity, and `fresh` is the
new session's UUID in hexadecimal. -/
def buildCesSessionBootstrap (postgresql : Bool) (epochs : ResetEpochs)
    (users : String → Option Uuid) (fresh : String) (request : BootstrapRequest) :
    Except String CesSessionBootstrap := do
  let identity := strip request.authProviderUid
  require (identity ≠ "") "Authenticated customer identity is missing."
  let (appId, versionOrDeploymentId) ← cesResourceIdentity request.gecxAppId
  let user ← orRaise (users identity)
    "Authenticated identity does not resolve to a banking customer."
  let runtimeSessionId := strip request.runtimeSessionId
  require (runtimeSessionId ≠ "") "CES runtime session id is missing."
  let resetToken := strip (getResetGeneration postgresql epochs identity).token
  require (resetToken ≠ "") "Voice reset generation is missing."
  let supportSessionId := strip (request.supportSessionId.getD "")
  return {
    customerIdentity := identity
    customerId := user.str
    binding := {
      supportSessionId := if supportSessionId = "" then
        "ces-support-" ++ fresh else supportSessionId
      runtimeName := CES_RUNTIME_NAME
      runtimeSessionId
      resetGeneration := resetToken
      cesAppId := appId
      cesVersionOrDeploymentId := versionOrDeploymentId } }

def identityFromCesCapability {κ ι : Type} (config : CapabilityConfig κ ι) (postgresql : Bool)
    (epochs : ResetEpochs) (capability : String) (headers : List (String × String)) (now : ℕ) :
    Except CapabilityException String := do
  let claims ← validateCesSessionCapability config capability headers now
  require (claims.binding.runtimeName = CES_RUNTIME_NAME)
    (.cesSessionCapabilityError "CES session capability runtime is invalid.")
  let currentGeneration := (getResetGeneration postgresql epochs claims.customerIdentity).token
  require (currentGeneration = claims.binding.resetGeneration)
    (.cesSessionCapabilityError "CES session capability was invalidated by a demo reset.")
  return claims.customerIdentity

theorem stripChars_stripChars (p : Char → Bool) (l : List Char) :
    stripChars p (stripChars p l) = stripChars p l := by
  have hback : (stripChars p l).reverse.dropWhile p = (stripChars p l).reverse := by
    unfold stripChars
    rw [List.reverse_reverse, List.dropWhile_idempotent]
  have hprefix : stripChars p l <+: l.dropWhile p := by
    have hsuffix : (l.dropWhile p).reverse.dropWhile p <:+ (l.dropWhile p).reverse :=
      List.dropWhile_suffix p
    rw [← List.reverse_prefix, List.reverse_reverse] at hsuffix
    exact hsuffix
  have hfront : (stripChars p l).dropWhile p = stripChars p l := by
    obtain ⟨t, ht⟩ := hprefix
    have hhead := List.head?_dropWhile_not p l
    rw [← ht] at hhead
    generalize stripChars p l = trimmed at hhead
    cases trimmed with
    | nil => rfl
    | cons c trimmed => exact List.dropWhile_cons_of_neg (by simpa using hhead)
  have htrim : stripChars p (stripChars p l) =
      (((stripChars p l).dropWhile p).reverse.dropWhile p).reverse := rfl
  rw [htrim, hfront, hback, List.reverse_reverse]

theorem strip_strip (s : String) : strip (strip s) = strip s := by
  unfold strip
  rw [String.toList_ofList, stripChars_stripChars]

theorem strip_token (g : ResetGeneration) : strip g.token = g.token := by
  apply strip_plain
  intro c hc
  have hdigit : ∀ c : Char, c.isDigit = true → isSpace c = false := by
    intro c hc
    have hbounds : 48 ≤ c.toNat ∧ c.toNat ≤ 57 := by
      simpa [Char.isDigit, UInt32.le_iff_toNat_le] using hc
    exact (tokenChar_plain (by simp [isTokenChar, hbounds])).1
  simp only [ResetGeneration.token, String.toList_append, List.mem_append] at hc
  rcases hc with (hc | hc) | hc
  · exact hdigit c (Numerals.isDigit_of_mem_toDigits (n := g.globalEpoch) (by simpa using hc))
  · obtain rfl : c = ':' := by simpa using hc
    decide
  · exact hdigit c (Numerals.isDigit_of_mem_toDigits (n := g.customerEpoch) (by simpa using hc))

theorem strip_uuid (u : Uuid) : strip u.str ≠ "" := by
  have hplain : ∀ c ∈ u.str.toList, isSpace c = false := by
    intro c hc
    by_cases hyphen : c = '-'
    · subst hyphen
      decide
    · have hmem : c ∈ (u.digits.map Uuid.hexDigit).filter (fun a => a ≠ '-') := by
        rw [← Uuid.filter_grouped, List.mem_filter]
        exact ⟨by simpa [Uuid.str] using hc, by simpa using hyphen⟩
      obtain ⟨d, -, rfl⟩ := List.mem_map.mp (List.mem_of_mem_filter hmem)
      have hspace : ∀ d, isSpace (Uuid.hexDigit d) = false := by decide
      exact hspace d
  rw [strip_plain hplain]
  intro hempty
  have hlength := u.length_str
  rw [hempty] at hlength
  cases hlength

section

variable {postgresql : Bool} {epochs : ResetEpochs} {users : String → Option Uuid}
  {fresh : String} {request : BootstrapRequest} {bootstrap : CesSessionBootstrap}

/-- What a bootstrap fixes: a trimmed identity, its customer, the runtime and the generation the
epochs then had. -/
theorem bootstrap_built
    (h : buildCesSessionBootstrap postgresql epochs users fresh request = .ok bootstrap) :
    (strip bootstrap.customerIdentity = bootstrap.customerIdentity ∧
      bootstrap.customerIdentity ≠ "") ∧
    strip bootstrap.customerId ≠ "" ∧
    bootstrap.binding.runtimeName = CES_RUNTIME_NAME ∧
    bootstrap.binding.resetGeneration =
      (getResetGeneration postgresql epochs bootstrap.customerIdentity).token := by
  simp only [buildCesSessionBootstrap, bind_eq_ok, require_eq_ok, orRaise_eq_ok,
    pure_eq_ok] at h
  obtain ⟨⟨⟩, hidentity, ⟨app, version⟩, -, user, -, ⟨⟩, -, ⟨⟩, -, rfl⟩ := h
  exact ⟨⟨strip_strip _, hidentity⟩, strip_uuid user, rfl, strip_token _⟩

end

/-- A capability names its customer for as long as it lasts, to the session it was minted for, and
until the first reset that concerns the customer. -/
theorem capability_until_reset {κ ι : Type} (config : CapabilityConfig κ ι)
    (hlawful : config.fernet.Lawful) (postgresql : Bool) (epochs : ResetEpochs)
    (users : String → Option Uuid) (fresh : String) (request : BootstrapRequest)
    (bootstrap : CesSessionBootstrap)
    (hbuild : buildCesSessionBootstrap postgresql epochs users fresh request = .ok bootstrap)
    (vector : ι) (issued : ℕ) (token : String)
    (hmint : mintCesSessionCapability config vector bootstrap issued = .ok token)
    (resets : List ResetScope) (headers : List (String × String)) (now : ℕ) (identity : String) :
    identityFromCesCapability config postgresql (afterResets postgresql epochs resets) token
        headers now = .ok identity ↔
      (now ≤ issued + config.ttlSeconds ∧ issued ≤ now + MAX_CLOCK_SKEW) ∧
      CarriesBinding headers bootstrap.binding ∧
      (postgresql = true → ∀ scope ∈ resets, ¬ scope.Concerns bootstrap.customerIdentity) ∧
      identity = bootstrap.customerIdentity := by
  obtain ⟨⟨htrimmed, hgiven⟩, hcustomer, hruntime, hgeneration⟩ := bootstrap_built hbuild
  have hvalid := validate_minted config hlawful vector bootstrap issued token hmint headers now
  have hunchanged :=
    generation_unchanged postgresql epochs resets bootstrap.customerIdentity
  simp only [identityFromCesCapability, bind_eq_ok, require_eq_ok, pure_eq_ok]
  constructor
  · rintro ⟨claims, hclaims, ⟨⟩, -, ⟨⟩, hcurrent, rfl⟩
    obtain ⟨hlife, hcarries, -, rfl⟩ := (hvalid claims).mp hclaims
    simp only [claimsOf, htrimmed, hgeneration] at hcurrent
    exact ⟨hlife, hcarries, hunchanged.mp hcurrent, htrimmed⟩
  · rintro ⟨hlife, hcarries, hresets, rfl⟩
    refine ⟨claimsOf bootstrap issued (issued + config.ttlSeconds), ?_, (), hruntime, (), ?_, ?_⟩
    · exact (hvalid _).mpr ⟨hlife, hcarries, ⟨by rwa [htrimmed], hcustomer⟩, rfl⟩
    · simp only [claimsOf, htrimmed]
      rw [hgeneration]
      exact hunchanged.mpr hresets
    · exact htrimmed

def consultation : CesSessionBootstrap where
  customerIdentity := "user-1"
  customerId := "11111111-1111-1111-1111-111111111111"
  binding :=
    { supportSessionId := "ces-support-7f"
      runtimeName := CES_RUNTIME_NAME
      runtimeSessionId := "runtime-1"
      resetGeneration := "2:0"
      cesAppId := "bank"
      cesVersionOrDeploymentId := "blue" }

def consultationToken : String :=
  CAPABILITY_PREFIX ++
    plainFernet.encryptAtTime () () (Json.dumps (payloadOf consultation (100 : ℕ) (100 + 900))) 100

def consultationHeaders : List (String × String) :=
  [("X-Support-Session-Id", "ces-support-7f"), ("X-Runtime-Name", "CES_GEMINI_LIVE"),
    ("X-Runtime-Session-Id", " runtime-1"), ("X-Reset-Generation", "2:0"),
    ("X-Ces-App-Id", "bank"), ("X-Ces-Version-Or-Deployment-Id", "blue")]

theorem consultation_carried : CarriesBinding consultationHeaders consultation.binding := by
  constructor <;> exact ⟨by decide, by decide, by decide, by decide, by decide⟩

/-- Another customer's reset leaves the capability, a reset of everything does not. -/
theorem consultation_until_reset :
    identityFromCesCapability demoConfig true
        (afterResets true (fun s => if s = .everyone then some 2 else none) [.customer "user-2"])
        consultationToken consultationHeaders 500 = .ok "user-1" ∧
      identityFromCesCapability demoConfig true
        (afterResets true (fun s => if s = .everyone then some 2 else none)
          [.customer "user-2", .everyone])
        consultationToken consultationHeaders 500 ≠ .ok "user-1" := by
  have hbuild : buildCesSessionBootstrap true (fun s => if s = .everyone then some 2 else none)
      (fun _ => some ⟨List.replicate 32 1, rfl⟩) "7f"
      ⟨" user-1", "runtime-1", "projects/demo/apps/bank/deployments/blue", none⟩ =
        .ok consultation := by rfl
  have hmint : mintCesSessionCapability demoConfig () consultation 100 = .ok consultationToken := by
    have httl : demoConfig.ttl = .ok 900 := by rfl
    have hkey : demoConfig.key = .ok () := by rfl
    rw [mintCesSessionCapability, httl, ok_bind, hkey, ok_bind]
    rfl
  have huntil := fun resets => capability_until_reset demoConfig plainFernet_lawful true _ _ _ _
    consultation hbuild () 100 consultationToken hmint resets consultationHeaders 500 "user-1"
  constructor
  · apply (huntil [.customer "user-2"]).mpr
    exact ⟨⟨by decide, by decide⟩, consultation_carried, by decide, rfl⟩
  · intro h
    obtain ⟨-, -, hresets, -⟩ := (huntil [.customer "user-2", .everyone]).mp h
    exact hresets rfl .everyone (by decide) (.inl rfl)

end BankingService.ResetGenerations
