import BankingService.Library.Base64
import BankingService.PythonValues

/-! The reader of a voice session's provider. What it reads it puts on the queue to the browser; how
a session ends is told there once the provider's last output is. -/
namespace BankingService.VoiceBidi

open Python

abbrev Fields := List (String × Json)

/-- `d.get(key)`. -/
def field (d : Fields) (key : String) : Json := (lookup d key).getD .null

def isText : Json → String → Bool
  | .str s, t => s = t
  | _, _ => false

/-- Floating-point numbers. `ofInt` of a number that is too large is `none`, as `ofText` of no
number is; `shown` are those finite and not negative. -/
structure Floats (F : Type) where
  ofInt : ℤ → Option F
  ofReal : Json.Real → F
  ofText : String → Option F
  thousandfold : F → F
  shown : F → Bool

structure Metrics (F : Type) where
  toolMs : Option F
  providerFirstChunkMs : Option F

def childSpans (span : Fields) : List Json :=
  match field span "childSpans" with
  | .arr children => children.take 200
  | _ => []

/-- `visit`, for so many levels. -/
def visit {m : Type → Type} [Monad m] {σ : Type} (look : Fields → σ → m σ) : ℕ → Json → σ → m σ
  | n + 1, .obj span, s => do
    let s ← look span s
    (childSpans span).foldlM (fun s child => visit look n child s) s
  | _, _, s => pure s

def LEVELS : ℕ := 21

section
variable {F : Type} (floats : Floats F)

/-- `number`, or `none` where it raises. -/
def number : Json → Option (Option F)
  | .int n => (floats.ofInt n).map fun x => if 0 ≤ n then some x else none
  | .real x => some (if floats.shown (floats.ofReal x) then some (floats.ofReal x) else none)
  | _ => some none

def firstChunk (span : Fields) : Option (Option F) :=
  if isText (field span "name") "LLM" then
    match field span "attributes" with
    | .obj attributes => number floats (field attributes "time to first chunk (ms)")
    | _ => some none
  else some none

def toolTime (span : Fields) : Option F :=
  if isText (field span "name") "Tool" then
    match field span "duration" with
    | .str duration =>
      if duration.toList.getLast? = some 's' then
        (floats.ofText (String.ofList duration.toList.dropLast)).bind fun seconds =>
          if floats.shown (floats.thousandfold seconds) then
            some (floats.thousandfold seconds) else none
      else none
    | _ => none
  else none

def measure (span : Fields) (metrics : Metrics F) : Option (Metrics F) := do
  let first ← firstChunk floats span
  return ⟨(toolTime floats span).or metrics.toolMs, first.or metrics.providerFirstChunkMs⟩

/-- Or `none` where it raises. -/
def cesDiagnostics (info : Json) : Option (Metrics F) :=
  match info with
  | .obj fields => visit (measure floats) LEVELS (field fields "rootSpan") ⟨none, none⟩
  | _ => some ⟨none, none⟩

end

def SUPPORTED_SUPPORT_LOCALES : List String :=
  ["en-US", "es-MX", "es-ES", "es-US", "fr-CA", "fr-FR", "de-DE", "pt-BR", "it-IT"]

/-- `success` has to be `True` itself. -/
def languageSet (result : Fields) : Option String :=
  match field result "success", field result "locale" with
  | .bool true, .str locale => if locale ∈ SUPPORTED_SUPPORT_LOCALES then some locale else none
  | _, _ => none

def languageOf (span : Fields) : Option String :=
  match isText (field span "name") "Tool", field span "attributes" with
  | true, .obj attrs =>
    match isText (field attrs "name") "set_conversation_language", field attrs "response" with
    | true, .obj response =>
      match field response "result" with
      | .obj result => languageSet result
      | _ => none
    | _, _ => none
  | _, _ => none

def cesLanguageEvent (info : Json) : Option String :=
  match info with
  | .obj fields =>
    Id.run (visit (m := Id) (fun span locale => pure ((languageOf span).or locale)) LEVELS
      (field fields "rootSpan") none)
  | _ => none

inductive Author where
  | agent
  | user
  deriving DecidableEq

inductive EndReason where
  | cesEndSession
  | cesGoAway
  deriving DecidableEq

inductive Payload (F : Type) where
  | audio (data : List UInt8)
  | transcript (text : Json) (author : Author) (transcriptId : Option String)
  | diagnostics (metrics : Metrics F)
  | languageChanged (locale : String)
  | interrupt
  | sessionEnd (reason : EndReason)

/-- The variables of the reader. `none` on the queue closes it. -/
structure Reader (F : Type) where
  agentTranscript : String
  agentTranscriptId : Option String
  agentTranscriptSequence : ℕ
  providerEndReceived : Bool
  sessionEndForwarded : Bool
  gecxToClientQueue : List (Option (Payload F))

variable {F : Type}

def Reader.start : Reader F := ⟨"", none, 0, false, false, []⟩

def Reader.put (s : Reader F) (payload : Payload F) : Reader F := { s with
  gecxToClientQueue := s.gecxToClientQueue ++ [some payload] }

def Reader.resetTranscript (s : Reader F) : Reader F := { s with
  agentTranscript := ""
  agentTranscriptId := none }

def sessionOutput (response : Fields) : Json := (lookup response "sessionOutput").getD (.obj [])

def audioOf (output : Fields) : Json := (lookup output "audio").getD (.str "")

/-- `base64.b64decode`, or `none` where it raises. -/
def b64decode : Json → Option (List UInt8)
  | .str text => Base64.decode text.toList
  | _ => none

def putAudio (s : Reader F) (output : Fields) : Except (Reader F) (Reader F) :=
  if Python.truthy (audioOf output) then
    match b64decode (audioOf output) with
    | some rawPcm => .ok (s.put (.audio rawPcm))
    | none => .error s
  else .ok s

def textOf (output : Fields) : Json := (lookup output "text").getD (.str "")

def Reader.nameTranscript (s : Reader F) (sessionId : String) : Reader F :=
  match s.agentTranscriptId with
  | some _ => s
  | none => { s with
    agentTranscriptSequence := s.agentTranscriptSequence + 1
    agentTranscriptId := some (sessionId ++ ":agent:" ++ toString (s.agentTranscriptSequence + 1)) }

def Reader.hear (s : Reader F) (delta : String) : Reader F := { s with
  agentTranscript := s.agentTranscript ++ delta }

def putText (sessionId : String) (s : Reader F) (output : Fields) : Except (Reader F) (Reader F) :=
  if Python.truthy (textOf output) then
    let s := s.nameTranscript sessionId
    match textOf output with
    | .str delta =>
      let s := s.hear delta
      .ok (s.put (.transcript (.str s.agentTranscript) .agent s.agentTranscriptId))
    | _ => .error s
  else .ok s

def turnCompleted (output : Fields) : Bool :=
  Python.truthy (field output "turnCompleted") || Python.truthy (field output "turn_completed")

def Reader.putLanguage (s : Reader F) : Option String → Reader F
  | some locale => s.put (.languageChanged locale)
  | none => s

def completeTurn (floats : Floats F) (s : Reader F) (output : Fields) :
    Except (Reader F) (Reader F) :=
  if turnCompleted output then
    match cesDiagnostics floats (field output "diagnosticInfo") with
    | some metrics =>
      let s :=
        (s.put (.diagnostics metrics)).putLanguage
          (cesLanguageEvent (field output "diagnosticInfo"))
      .ok s.resetTranscript
    | none => .error s
  else .ok s

def readOutput (floats : Floats F) (sessionId : String) (s : Reader F) (response : Fields) :
    Except (Reader F) (Reader F) :=
  if Python.truthy (sessionOutput response) then
    match sessionOutput response with
    | .obj output => do
      let s ← putAudio s output
      let s ← putText sessionId s output
      completeTurn floats s output
    | _ => .error s
  else .ok s

/-- `turn_completed`, which is false without output. -/
def completesTurn (response : Fields) : Bool :=
  match sessionOutput response with
  | .obj output => turnCompleted output
  | _ => false

def recognitionResult (response : Fields) : Json :=
  (lookup response "recognitionResult").getD (.obj [])

def readRecognition (s : Reader F) (response : Fields) : Except (Reader F) (Reader F) :=
  if Python.truthy (recognitionResult response) then
    match recognitionResult response with
    | .obj result =>
      let userTranscript := (lookup result "transcript").getD (.str "")
      .ok (if Python.truthy userTranscript then
        s.put (.transcript userTranscript .user none) else s)
    | _ => .error s
  else .ok s

def interrupts (response : Fields) : Bool :=
  Python.truthy (field response "interruptionSignal") || Python.truthy
    (field response "interruption_signal")

def readInterruption (s : Reader F) (response : Fields) : Reader F :=
  if interrupts response then s.resetTranscript.put .interrupt else s

/-- The value, or the other one if it is `None`. -/
def orIfNone : Json → Json → Json
  | .null, other => other
  | value, _ => value

def endSession (response : Fields) : Json :=
  orIfNone (field response "endSession") (orIfNone (field response "end_session")
    (match sessionOutput response with
      | .obj output => orIfNone (field output "endSession") (field output "end_session")
      | _ => .null))

def Reader.receiveEnd (s : Reader F) : Reader F := { s with
  providerEndReceived := true }

def readEndSession (s : Reader F) (response : Fields) : Except (Reader F) (Reader F) :=
  match endSession response with
  | .null => .ok s
  | .obj end' =>
    match (lookup end' "metadata").getD (.obj []) with
    | .obj _ => .ok s.receiveEnd
    | _ => .error s
  | _ => .ok s.receiveEnd

def goAway (response : Fields) : Bool :=
  (lookup response "goAway").isSome || (lookup response "go_away").isSome

def Reader.forwardEnd (s : Reader F) : Reader F := { s with
  sessionEndForwarded := true }

def readTerminal (s : Reader F) (response : Fields) : Except (Reader F) (Reader F) :=
  if s.providerEndReceived && completesTurn response then
    .error (s.put (.sessionEnd .cesEndSession)).forwardEnd
  else if goAway response then .error (s.put (.sessionEnd .cesGoAway))
  else .ok s

section
-- `loads` is `json.loads`
variable (loads : String → Option Json) (floats : Floats F) (sessionId : String)

def readResponse (s : Reader F) (response : Fields) : Except (Reader F) (Reader F) := do
  let s ← readOutput floats sessionId s response
  let s ← readRecognition s response
  let s ← readEndSession (readInterruption s response) response
  readTerminal s response

/-- `idle` is a gap as long as the drain waits, and `lost` an error of the connection. -/
inductive Incoming where
  | message (text : String)
  | idle
  | lost

def responseOf (loads : String → Option Json) (text : String) : Option Fields :=
  match loads text with
  | some (.obj response) => some response
  | _ => none

def receive (s : Reader F) : Incoming → Except (Reader F) (Reader F)
  | .message text =>
    match responseOf loads text with
    | some response => readResponse floats sessionId s response
    | none => .error s
  | .idle => if s.providerEndReceived then .error s else .ok s
  | .lost => .error s

/-- The `finally` block. -/
def close (s : Reader F) : Reader F :=
  let s :=
    if s.providerEndReceived && !s.sessionEndForwarded then
      s.put (.sessionEnd .cesEndSession) else s
  { s with
    gecxToClientQueue := s.gecxToClientQueue ++ [none] }

/-- `read_from_gecx`, with all that comes before the connection is closed, and what it puts on the
queue. -/
def readFromGecx (incoming : List Incoming) : List (Option (Payload F)) :=
  match incoming.foldlM (receive loads floats sessionId) Reader.start with
  | .ok s | .error s => (close s).gecxToClientQueue

end

end BankingService.VoiceBidi
