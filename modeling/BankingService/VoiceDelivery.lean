import BankingService.Library.Checked
import BankingService.VoiceBidi
import Mathlib.Data.List.DropRight
import Mathlib.Data.List.ReduceOption

/-! What the browser gets of a voice session: the audio in order, the agent's words turn by turn,
and one end of the session. The end comes twice or not at all where the reader leaves its loop in a
way that its flags do not tell. -/
namespace VoiceDelivery

open BankingService.VoiceBidi Checked Python

variable {F : Type}

def outputOf (response : Fields) : Fields :=
  match sessionOutput response with
  | .obj output => output
  | _ => []

def chunk (response : Fields) : Option (List UInt8) :=
  if Python.truthy (audioOf (outputOf response)) then
    b64decode (audioOf (outputOf response)) else none

def AudioReadable (response : Fields) : Prop :=
  Python.truthy (audioOf (outputOf response)) = true →
    (b64decode (audioOf (outputOf response))).isSome

instance (response : Fields) : Decidable (AudioReadable response) :=
  inferInstanceAs (Decidable (_ → _))

/-- The agent's words in the message. What comes with audio that cannot be decoded is not heard. -/
def delta (response : Fields) : String :=
  match textOf (outputOf response) with
  | .str text => if AudioReadable response then text else ""
  | _ => ""

def endsTurn (response : Fields) : Bool := completesTurn response || interrupts response

def sinceTurn (past : List Fields) : String :=
  String.join ((past.rtakeWhile fun r => !endsTurn r).map delta)

/-- What the agent's transcripts have to be, for messages after the past ones. -/
def transcripts (past : List Fields) : List Fields → List String
  | [] => []
  | r :: rest =>
    (if delta r = "" then [] else [sinceTurn past ++ delta r]) ++ transcripts (past ++ [r]) rest

def ends (response : Fields) : Bool :=
  match endSession response with
  | .null => false
  | _ => true

def Terminal (response : Fields) : Prop := ends response = true ∨ goAway response = true

structure OutputReadable (floats : Floats F) (response : Fields) : Prop where
  output :
    Python.truthy (sessionOutput response) = true → ∃ output, sessionOutput response = .obj output
  audio : AudioReadable response
  text : Python.truthy (textOf (outputOf response)) = true →
    ∃ text, textOf (outputOf response) = .str text
  diagnostics : completesTurn response = true →
    (cesDiagnostics floats (field (outputOf response) "diagnosticInfo")).isSome

/-- Nothing in the message makes the reader raise. -/
structure Readable (floats : Floats F) (response : Fields) : Prop where
  output : OutputReadable floats response
  recognition : Python.truthy (recognitionResult response) = true →
    ∃ result, recognitionResult response = .obj result
  ending : ∀ end', endSession response = .obj end' →
    ∃ metadata, (lookup end' "metadata").getD (.obj []) = .obj metadata

def audio : Payload F → Option (List UInt8)
  | .audio data => some data
  | _ => none

def agentText : Payload F → Option Json
  | .transcript text .agent _ => some text
  | _ => none

def isEnd : Payload F → Bool
  | .sessionEnd _ => true
  | _ => false

def responses (loads : String → Option Json) : Incoming → List Fields
  | .message text => (responseOf loads text).toList
  | .idle => []
  | .lost => []

def taken (loads : String → Option Json) (floats : Floats F) (sessionId : String) (s : Reader F) :
    List Incoming → List Fields
  | [] => []
  | e :: rest => responses loads e ++
    match receive loads floats sessionId s e with
    | .ok s => taken loads floats sessionId s rest
    | .error _ => []

/-- The queue is what the messages promise. -/
structure AsPromised (messages : List Fields) (queue : List (Option (Payload F))) : Prop where
  audio : queue.reduceOption.filterMap audio = messages.filterMap chunk
  unchanged : ∀ r ∈ messages, ∀ data, data ≠ [] →
    audioOf (outputOf r) = .str (String.ofList (Base64.encode data)) → chunk r = some data
  transcripts : queue.reduceOption.filterMap agentText = (transcripts [] messages).map Json.str
  once : queue.reduceOption.countP isEnd ≤ 1
  ended : (∃ r ∈ messages, Terminal r) → queue.reduceOption.countP isEnd = 1
  last : ∀ before reason after, queue = before ++ some (.sessionEnd reason) :: after →
    after = [none]
  closed : ∃ body : List (Payload F), queue = body.map some ++ [none]

structure Puts (s s' : Reader F) (sounds : List (List UInt8)) (texts : List Json) : Prop where
  queue : ∃ payloads : List (Payload F),
    s'.gecxToClientQueue = s.gecxToClientQueue ++ payloads.map some ∧
    payloads.filterMap audio = sounds ∧ payloads.filterMap agentText = texts ∧
      payloads.countP isEnd = 0
  received : s'.providerEndReceived = s.providerEndReceived
  forwarded : s'.sessionEndForwarded = s.sessionEndForwarded

theorem Puts.same {s s' : Reader F} (queue : s'.gecxToClientQueue = s.gecxToClientQueue)
    (received : s'.providerEndReceived = s.providerEndReceived)
    (forwarded : s'.sessionEndForwarded = s.sessionEndForwarded) : Puts s s' [] [] :=
  ⟨⟨[], by rw [queue, List.map_nil, List.append_nil], rfl, rfl, rfl⟩, received, forwarded⟩

theorem Puts.none (s : Reader F) : Puts s s [] [] := .same rfl rfl rfl

theorem Puts.trans {s s' s'' : Reader F} {sounds sounds' : List (List UInt8)}
    {texts texts' : List Json}
    (h : Puts s s' sounds texts) (h' : Puts s' s'' sounds' texts') :
    Puts s s'' (sounds ++ sounds') (texts ++ texts') := by
  obtain ⟨payloads, hqueue, rfl, rfl, hquiet⟩ := h.queue
  obtain ⟨payloads', hqueue', rfl, rfl, hquiet'⟩ := h'.queue
  refine ⟨⟨payloads ++ payloads', ?_, List.filterMap_append, List.filterMap_append, ?_⟩,
    h'.received.trans h.received, h'.forwarded.trans h.forwarded⟩
  · rw [hqueue', hqueue, List.map_append, List.append_assoc]
  · rw [List.countP_append, hquiet, hquiet']

theorem puts_put (s : Reader F) {payload : Payload F} (quiet : isEnd payload = false) :
    Puts s (s.put payload) (audio payload).toList (agentText payload).toList := by
  refine ⟨⟨[payload], rfl, ?_, ?_, ?_⟩, rfl, rfl⟩
  · cases h : audio payload <;> simp [h]
  · cases h : agentText payload <;> simp [h]
  · simp [quiet]

def said (s : Reader F) (response : Fields) : List Json :=
  if delta response = "" then [] else [.str (s.agentTranscript ++ delta response)]

theorem putAudio_cases (s : Reader F) (r : Fields) :
    (AudioReadable r ∧ ∃ s', putAudio s (outputOf r) = .ok s' ∧ Puts s s' (chunk r).toList [] ∧
        s'.agentTranscript = s.agentTranscript) ∨
      (¬ AudioReadable r ∧ putAudio s (outputOf r) = .error s ∧ chunk r = none ∧ delta r = "") := by
  unfold putAudio chunk
  by_cases haudio : Python.truthy (audioOf (outputOf r)) = true
  · rw [if_pos haudio, if_pos haudio]
    cases hdecoded : b64decode (audioOf (outputOf r)) with
    | some data =>
      refine Or.inl ⟨fun _ => ?_, _, rfl, puts_put s rfl, rfl⟩
      rw [hdecoded]
      rfl
    | none =>
      have hunreadable : ¬ AudioReadable r := by
        intro h
        have hsome := h haudio
        rw [hdecoded] at hsome
        cases hsome
      refine Or.inr ⟨hunreadable, rfl, rfl, ?_⟩
      unfold delta
      split
      · rw [if_neg hunreadable]
      · rfl
  · rw [if_neg haudio, if_neg haudio]
    exact Or.inl ⟨fun h => absurd h haudio, _, rfl, Puts.none s, rfl⟩

theorem delta_eq {r : Fields} (haudio : AudioReadable r) : delta r = match textOf (outputOf r) with
    | .str text => text
    | _ => "" := by
  unfold delta
  split
  · rw [if_pos haudio]
  · rfl

theorem said_none {s : Reader F} {r : Fields} (h : delta r = "") : said s r = [] := by
  rw [said, if_pos h]

theorem putText_cases (sessionId : String) (s : Reader F) {r : Fields} (haudio : AudioReadable r) :
    ((Python.truthy (textOf (outputOf r)) = true → ∃ text, textOf (outputOf r) = .str text) ∧
      ∃ s', putText sessionId s (outputOf r) = .ok s' ∧ Puts s s' [] (said s r) ∧
        s'.agentTranscript = s.agentTranscript ++ delta r) ∨
    (¬ (Python.truthy (textOf (outputOf r)) = true → ∃ text, textOf (outputOf r) = .str text) ∧
      ∃ s', putText sessionId s (outputOf r) = .error s' ∧ Puts s s' [] (said s r)) := by
  have hdelta := delta_eq haudio
  have hnamed : Puts s (s.nameTranscript sessionId) [] [] ∧
      (s.nameTranscript sessionId).agentTranscript = s.agentTranscript := by
    unfold Reader.nameTranscript
    split
    · exact ⟨Puts.none s, rfl⟩
    · exact ⟨Puts.same rfl rfl rfl, rfl⟩
  unfold putText
  by_cases htext : Python.truthy (textOf (outputOf r)) = true
  · rw [if_pos htext]
    dsimp only
    split
    · next text hvalue =>
      rw [hvalue] at hdelta htext
      have hnonempty : text ≠ "" := of_decide_eq_true htext
      have hheard : ((s.nameTranscript sessionId).hear text).agentTranscript =
          s.agentTranscript ++ delta r := by
        rw [Reader.hear, hnamed.2, hdelta]
      refine Or.inl ⟨fun _ => ⟨text, hvalue⟩, _, rfl, ?_, hheard⟩
      have hkept :
        Puts (s.nameTranscript sessionId) ((s.nameTranscript sessionId).hear text) [] [] :=
        Puts.same rfl rfl rfl
      have hput := (hnamed.1.trans hkept).trans
        (puts_put ((s.nameTranscript sessionId).hear text)
          (rfl : isEnd
            (.transcript (.str ((s.nameTranscript sessionId).hear text).agentTranscript) .agent
            ((s.nameTranscript sessionId).hear text).agentTranscriptId) = false))
      rw [said, hdelta, if_neg hnonempty, ← hdelta, ← hheard]
      exact hput
    · next hvalue =>
      have hnone : delta r = "" := by
        rw [hdelta]
        split
        · next text heq => exact absurd heq (hvalue text)
        · rfl
      refine Or.inr ⟨fun h => ?_, _, rfl, ?_⟩
      · obtain ⟨text, heq⟩ := h htext
        exact hvalue text heq
      · rw [said_none hnone]
        exact hnamed.1
  · rw [if_neg htext]
    have hnone : delta r = "" := by
      rw [hdelta]
      split
      · next text heq =>
        rw [heq] at htext
        simpa [Python.truthy] using htext
      · rfl
    refine Or.inl ⟨fun h => absurd h htext, _, rfl, ?_, ?_⟩
    · rw [said_none hnone]
      exact Puts.none s
    · rw [hnone, String.append_empty]

theorem completesTurn_eq (r : Fields) : completesTurn r = turnCompleted (outputOf r) := by
  unfold completesTurn outputOf
  cases sessionOutput r <;> rfl

theorem completeTurn_cases (floats : Floats F) (s : Reader F) (r : Fields) :
    ((completesTurn r = true →
      (cesDiagnostics floats (field (outputOf r) "diagnosticInfo")).isSome) ∧
      ∃ s', completeTurn floats s (outputOf r) = .ok s' ∧ Puts s s' [] [] ∧
        s'.agentTranscript = if completesTurn r then "" else s.agentTranscript) ∨
    (¬ (completesTurn r = true →
      (cesDiagnostics floats (field (outputOf r) "diagnosticInfo")).isSome) ∧
      completeTurn floats s (outputOf r) = .error s) := by
  unfold completeTurn
  rw [completesTurn_eq]
  by_cases hturn : turnCompleted (outputOf r) = true
  · rw [if_pos hturn, if_pos hturn]
    cases hmetrics : cesDiagnostics floats (field (outputOf r) "diagnosticInfo") with
    | some metrics =>
      refine Or.inl ⟨fun _ => rfl, _, rfl, ?_, rfl⟩
      have hput := puts_put s (rfl : isEnd (.diagnostics metrics) = false)
      cases cesLanguageEvent (field (outputOf r) "diagnosticInfo") with
      | none => exact hput.trans (Puts.same rfl rfl rfl)
      | some locale =>
        have hlanguage := puts_put (s.put (.diagnostics metrics))
          (rfl : isEnd (.languageChanged locale) = false)
        exact (hput.trans hlanguage).trans (Puts.same rfl rfl rfl)
    | none => exact Or.inr ⟨fun h => absurd (h hturn) (by simp), rfl⟩
  · rw [if_neg hturn, if_neg hturn]
    exact Or.inl ⟨fun h => absurd h hturn, _, rfl, Puts.none s, rfl⟩

theorem said_eq {s s' : Reader F} {r : Fields} (h : s'.agentTranscript = s.agentTranscript) :
    said s' r = said s r := by
  rw [said, said, h]

theorem stages_cases (floats : Floats F) (sessionId : String) (s : Reader F) {r : Fields}
    (hobject : Python.truthy (sessionOutput r) = true → ∃ output, sessionOutput r = .obj output) :
    let stages := putAudio s (outputOf r) >>= fun s => putText sessionId s (outputOf r) >>= fun s =>
      completeTurn floats s (outputOf r)
    (OutputReadable floats r ∧ ∃ s', stages = .ok s' ∧ Puts s s' (chunk r).toList (said s r) ∧
        s'.agentTranscript = if completesTurn r then "" else s.agentTranscript ++ delta r) ∨
      (¬ OutputReadable floats r ∧ ∃ s', stages = .error s' ∧
        Puts s s' (chunk r).toList (said s r)) := by
  intro stages
  rcases putAudio_cases s r with ⟨haudio, s₁, hs₁, hput₁, htext₁⟩ | ⟨haudio, hs₁, hchunk, hdelta⟩
  · rcases putText_cases sessionId s₁ haudio with ⟨htext, s₂, hs₂, hput₂, htext₂⟩ |
      ⟨htext, s₂, hs₂, hput₂⟩
    · have hput := hput₁.trans hput₂
      rw [List.append_nil, List.nil_append, said_eq htext₁] at hput
      rw [htext₁] at htext₂
      rcases completeTurn_cases floats s₂ r with ⟨hturn, s₃, hs₃, hput₃, htext₃⟩ | ⟨hturn, hs₃⟩
      · have hall := hput.trans hput₃
        rw [List.append_nil, List.append_nil] at hall
        refine Or.inl ⟨⟨hobject, haudio, htext, hturn⟩, s₃, ?_, hall, ?_⟩
        · rw [← hs₃]
          dsimp only [stages]
          rw [hs₁, ok_bind, hs₂, ok_bind]
        · rw [htext₃, htext₂]
      · refine Or.inr ⟨fun h => hturn h.diagnostics, s₂, ?_, hput⟩
        dsimp only [stages]
        rw [hs₁, ok_bind, hs₂, ok_bind, hs₃]
    · have hput := hput₁.trans hput₂
      rw [List.append_nil, List.nil_append, said_eq htext₁] at hput
      refine Or.inr ⟨fun h => htext h.text, s₂, ?_, hput⟩
      dsimp only [stages]
      rw [hs₁, ok_bind, hs₂]
      rfl
  · refine Or.inr ⟨fun h => haudio h.audio, s, ?_, ?_⟩
    · dsimp only [stages]
      rw [hs₁]
      rfl
    · rw [hchunk, said_none hdelta]
      exact Puts.none s

theorem no_output {r : Fields} (h : ∀ output, sessionOutput r ≠ .obj output) :
    chunk r = none ∧ delta r = "" ∧ completesTurn r = false ∧ AudioReadable r ∧
      Python.truthy (textOf (outputOf r)) = false := by
  have hempty : outputOf r = [] := by
    unfold outputOf
    split
    · next output heq => exact absurd heq (h output)
    · rfl
  have haudio : AudioReadable r := by
    unfold AudioReadable
    rw [hempty]
    exact fun hfalse => absurd hfalse (by decide)
  rw [completesTurn_eq, chunk, delta_eq haudio, hempty]
  exact ⟨rfl, rfl, rfl, haudio, rfl⟩

theorem readOutput_cases (floats : Floats F) (sessionId : String) (s : Reader F) (r : Fields) :
    (OutputReadable floats r ∧ ∃ s', readOutput floats sessionId s r = .ok s' ∧
        Puts s s' (chunk r).toList (said s r) ∧
        s'.agentTranscript = if completesTurn r then "" else s.agentTranscript ++ delta r) ∨
      (¬ OutputReadable floats r ∧ ∃ s', readOutput floats sessionId s r = .error s' ∧
        Puts s s' (chunk r).toList (said s r)) := by
  by_cases hobject : ∃ output, sessionOutput r = .obj output
  · obtain ⟨output, houtput⟩ := hobject
    have hfields : outputOf r = output := by rw [outputOf, houtput]
    have hstages := stages_cases floats sessionId s (r := r) fun _ => ⟨output, houtput⟩
    rw [hfields] at hstages
    unfold readOutput
    rw [houtput]
    by_cases htruthy : Python.truthy (.obj output) = true
    · rw [if_pos htruthy]
      exact hstages
    · rw [if_neg htruthy]
      obtain rfl : output = [] := by simpa [Python.truthy] using htruthy
      exact hstages
  · obtain ⟨hchunk, hdelta, hturn, haudio, htext⟩ := no_output fun output h => hobject ⟨output, h⟩
    rw [hchunk, said_none hdelta, hdelta, hturn]
    unfold readOutput
    by_cases htruthy : Python.truthy (sessionOutput r) = true
    · rw [if_pos htruthy]
      refine Or.inr ⟨fun h => hobject (h.output htruthy), s, ?_, Puts.none s⟩
      split
      · next output heq => exact absurd ⟨output, heq⟩ hobject
      · rfl
    · rw [if_neg htruthy]
      refine Or.inl
        ⟨⟨fun h => absurd h htruthy, haudio, fun h => ?_, fun h => ?_⟩, s, rfl, Puts.none s, ?_⟩
      · rw [htext] at h
        cases h
      · rw [hturn] at h
        cases h
      · rw [String.append_empty]
        rfl

theorem readRecognition_cases (s : Reader F) (r : Fields) :
    ((Python.truthy (recognitionResult r) = true → ∃ result, recognitionResult r = .obj result) ∧
      ∃ s', readRecognition s r = .ok s' ∧ Puts s s' [] [] ∧
        s'.agentTranscript = s.agentTranscript) ∨
    (¬ (Python.truthy (recognitionResult r) = true → ∃ result, recognitionResult r = .obj result) ∧
      readRecognition s r = .error s) := by
  unfold readRecognition
  by_cases hresult : Python.truthy (recognitionResult r) = true
  · rw [if_pos hresult]
    split
    · next result heq =>
      refine Or.inl ⟨fun _ => ⟨result, heq⟩, _, rfl, ?_⟩
      split_ifs
      · exact ⟨puts_put s rfl, rfl⟩
      · exact ⟨Puts.none s, rfl⟩
    · next hother =>
      refine Or.inr ⟨fun h => ?_, rfl⟩
      obtain ⟨result, heq⟩ := h hresult
      exact hother result heq
  · rw [if_neg hresult]
    exact Or.inl ⟨fun h => absurd h hresult, _, rfl, Puts.none s, rfl⟩

theorem readInterruption_puts (s : Reader F) (r : Fields) : Puts s (readInterruption s r) [] [] ∧
    (readInterruption s r).agentTranscript = if interrupts r then "" else s.agentTranscript := by
  unfold readInterruption
  split_ifs
  · have hreset : Puts s s.resetTranscript [] [] := Puts.same rfl rfl rfl
    exact ⟨hreset.trans (puts_put s.resetTranscript rfl), rfl⟩
  · exact ⟨Puts.none s, rfl⟩

def knowing (s : Reader F) (r : Fields) : Reader F := if ends r then s.receiveEnd else s

theorem readEndSession_cases (s : Reader F) (r : Fields) :
    ((∀ end', endSession r = .obj end' →
        ∃ metadata, (lookup end' "metadata").getD (.obj []) = .obj metadata) ∧
      readEndSession s r = .ok (knowing s r)) ∨
    (¬ (∀ end', endSession r = .obj end' →
        ∃ metadata, (lookup end' "metadata").getD (.obj []) = .obj metadata) ∧
      readEndSession s r = .error s ∧ ends r = true) := by
  unfold readEndSession knowing ends
  cases hend : endSession r with
  | obj end' =>
    dsimp only
    split
    · next metadata heq =>
      refine Or.inl ⟨fun other hother => ?_, rfl⟩
      obtain rfl := Json.obj.inj hother
      exact ⟨metadata, heq⟩
    · next hother =>
      refine Or.inr ⟨fun h => ?_, rfl, rfl⟩
      obtain ⟨metadata, heq⟩ := h end' rfl
      exact hother metadata heq
  | _ => exact Or.inl ⟨(fun _ h => by cases h), rfl⟩

theorem readResponse_cases (floats : Floats F) (sessionId : String) (s : Reader F) (r : Fields) :
    (Readable floats r ∧ ∃ s', readResponse floats sessionId s r = readTerminal (knowing s' r) r ∧
        Puts s s' (chunk r).toList (said s r) ∧
        s'.agentTranscript = if endsTurn r then "" else s.agentTranscript ++ delta r) ∨
      (¬ Readable floats r ∧ ∃ s', readResponse floats sessionId s r = .error s' ∧
        Puts s s' (chunk r).toList (said s r)) := by
  unfold readResponse
  rcases readOutput_cases floats sessionId s r with
    ⟨houtput, s₁, hs₁, hput₁, htext₁⟩ | ⟨houtput, s₁, hs₁, hput₁⟩
  · rw [hs₁, ok_bind]
    rcases readRecognition_cases s₁ r with ⟨hresult, s₂, hs₂, hput₂, htext₂⟩ | ⟨hresult, hs₂⟩
    · rw [hs₂, ok_bind]
      obtain ⟨hput₃, htext₃⟩ := readInterruption_puts s₂ r
      have hput := (hput₁.trans hput₂).trans hput₃
      simp only [List.append_nil] at hput
      rcases readEndSession_cases (readInterruption s₂ r) r with ⟨hend, hs₄⟩ | ⟨hend, hs₄, -⟩
      · rw [hs₄, ok_bind]
        refine Or.inl ⟨⟨houtput, hresult, hend⟩, readInterruption s₂ r, rfl, hput, ?_⟩
        rw [htext₃, htext₂, htext₁, endsTurn]
        cases completesTurn r <;> cases interrupts r <;> rfl
      · rw [hs₄]
        exact Or.inr ⟨fun h => hend h.ending, _, rfl, hput⟩
    · rw [hs₂]
      exact Or.inr ⟨fun h => hresult h.recognition, _, rfl, hput₁⟩
  · rw [hs₁]
    exact Or.inr ⟨fun h => houtput h.output, _, rfl, hput₁⟩

/-- The queue has what the messages say, and no end of the session. -/
def Queued (messages : List Fields) (s : Reader F) : Prop :=
  Puts Reader.start { s with
    providerEndReceived := false } (messages.filterMap chunk)
      ((transcripts [] messages).map Json.str)

/-- What a reader knows that is past these messages. -/
structure Seen (past : List Fields) (s : Reader F) : Prop where
  queued : Queued past s
  transcript : s.agentTranscript = sinceTurn past
  received : s.providerEndReceived = past.any ends

theorem transcripts_append (before past : List Fields) (r : Fields) :
    transcripts before (past ++ [r]) = transcripts before past ++
      (if delta r = "" then [] else [sinceTurn (before ++ past) ++ delta r]) := by
  induction past generalizing before with
  | nil => simp [transcripts]
  | cons first past ih =>
    rw [List.cons_append, transcripts, transcripts, ih, List.append_assoc, List.append_assoc]
    rfl

theorem sinceTurn_append (past : List Fields) (r : Fields) :
    sinceTurn (past ++ [r]) = if endsTurn r then "" else sinceTurn past ++ delta r := by
  unfold sinceTurn
  rw [List.rtakeWhile_concat]
  cases endsTurn r with
  | true => rfl
  | false => simp

theorem encode_ne_nil {data : List UInt8} (h : data ≠ []) : Base64.encode data ≠ [] := by
  fun_cases Base64.encode data with
  | case1 => exact absurd rfl h
  | case2 | case3 | case4 => exact List.cons_ne_nil _ _

theorem chunk_encoded {r : Fields} {data : List UInt8} (h : data ≠ [])
    (encoded : audioOf (outputOf r) = .str (String.ofList (Base64.encode data))) :
    chunk r = some data := by
  have htruthy : Python.truthy (audioOf (outputOf r)) = true := by
    rw [encoded]
    refine decide_eq_true fun hempty => encode_ne_nil h ?_
    rw [← String.toList_ofList (l := Base64.encode data), hempty]
    rfl
  rw [chunk, if_pos htruthy, encoded, b64decode, String.toList_ofList, Base64.decode_encode]

theorem no_end {body : List (Payload F)} (quiet : body.countP isEnd = 0) (reason : EndReason) :
    some (.sessionEnd reason) ∉ body.map some := by
  intro h
  obtain ⟨payload, hmem, heq⟩ := List.mem_map.mp h
  obtain rfl := Option.some.inj heq
  exact List.countP_eq_zero.mp quiet _ hmem rfl

theorem after_end {body : List (Payload F)} (quiet : body.countP isEnd = 0)
    {reasons : List EndReason}
    (once : reasons.length ≤ 1) {before after : List (Option (Payload F))} {reason : EndReason}
    (h : body.map some ++ reasons.map (fun e => some (.sessionEnd e)) ++ [none] =
      before ++ some (.sessionEnd reason) :: after) : after = [none] := by
  rw [List.append_assoc] at h
  rcases List.append_eq_append_iff.mp h with ⟨rest, -, hrest⟩ | ⟨rest, hbody, hrest⟩
  · cases reasons with
    | nil =>
      cases rest with
      | nil => cases hrest
      | cons first rest => cases rest <;> cases hrest
    | cons last reasons =>
      obtain rfl : reasons = [] :=
        List.length_eq_zero_iff.mp (Nat.le_zero.mp (Nat.le_of_succ_le_succ once))
      cases rest with
      | nil => exact (List.cons.inj hrest).2.symm
      | cons first rest =>
        have htail := (List.cons.inj hrest).2
        cases rest with
        | nil => cases htail
        | cons second rest => cases rest <;> cases htail
  · cases rest with
    | nil =>
      cases reasons with
      | nil => cases hrest
      | cons last reasons =>
        obtain rfl : reasons = [] :=
          List.length_eq_zero_iff.mp (Nat.le_zero.mp (Nat.le_of_succ_le_succ once))
        exact (List.cons.inj hrest).2
    | cons first rest =>
      obtain rfl := (List.cons.inj hrest).1
      refine absurd ?_ (no_end quiet reason)
      rw [hbody]
      exact List.mem_append_right _ List.mem_cons_self

/-- The queue at the end, with the ends of the session that were put on it. -/
theorem asPromised_iff {messages : List Fields} {body : List (Payload F)} (reasons : List EndReason)
    (haudio : body.filterMap audio = messages.filterMap chunk)
    (htexts : body.filterMap agentText = (transcripts [] messages).map Json.str)
    (quiet : body.countP isEnd = 0) :
    AsPromised messages (body.map some ++ reasons.map (fun e => some (.sessionEnd e)) ++ [none]) ↔
      reasons.length ≤ 1 ∧ ((∃ r ∈ messages, Terminal r) → reasons.length = 1) := by
  have hqueue : body.map some ++ reasons.map (fun e => some (Payload.sessionEnd e)) ++ [none] =
      (body ++ reasons.map Payload.sessionEnd).map some ++ [none] := by
    rw [List.map_append, List.map_map]
    rfl
  have hreduced : (body.map some ++ reasons.map (fun e => some (Payload.sessionEnd e)) ++
      [none]).reduceOption = body ++ reasons.map Payload.sessionEnd := by
    rw [hqueue, List.reduceOption_append, List.reduceOption]
    simp [List.filterMap_map]
  have hcount : (body ++ reasons.map Payload.sessionEnd).countP isEnd = reasons.length := by
    rw [List.countP_append, quiet, Nat.zero_add, List.countP_map, List.countP_eq_length]
    exact fun _ _ => rfl
  constructor
  · intro h
    have honce := h.once
    have hended := h.ended
    rw [hreduced, hcount] at honce hended
    exact ⟨honce, hended⟩
  · rintro ⟨honce, hended⟩
    refine ⟨?_, fun r _ data h encoded => chunk_encoded h encoded, ?_, ?_, ?_, ?_, _, hqueue⟩
    · rw [hreduced, List.filterMap_append, haudio, List.filterMap_map]
      simp [audio, Function.comp_def]
    · rw [hreduced, List.filterMap_append, htexts, List.filterMap_map]
      simp [agentText, Function.comp_def]
    · rw [hreduced, hcount]
      exact honce
    · rw [hreduced, hcount]
      exact hended
    · exact fun before reason after h => after_end quiet honce h

theorem queued_next {past : List Fields} {s s' : Reader F} {r : Fields} (h : Seen past s)
    (hput : Puts s s' (chunk r).toList (said s r)) : Queued (past ++ [r]) s' := by
  have hput' : Puts { s with
      providerEndReceived := false } { s' with
      providerEndReceived := false } (chunk r).toList (said s r) :=
        ⟨hput.queue, rfl, hput.forwarded⟩
  have hall := h.queued.trans hput'
  have hchunks : (past ++ [r]).filterMap chunk = past.filterMap chunk ++ (chunk r).toList := by
    rw [List.filterMap_append]
    cases hchunk : chunk r <;> simp [hchunk]
  have hsaid : (transcripts [] (past ++ [r])).map Json.str =
      (transcripts [] past).map Json.str ++ said s r := by
    rw [transcripts_append, List.map_append, said, h.transcript, List.nil_append]
    split_ifs <;> rfl
  rw [Queued, hchunks, hsaid]
  exact hall

theorem knowing_received (s : Reader F) (r : Fields) :
    (knowing s r).providerEndReceived = (s.providerEndReceived || ends r) := by
  unfold knowing
  cases ends r with
  | true => exact (Bool.or_true _).symm
  | false => exact (Bool.or_false _).symm

theorem seen_next {past : List Fields} {s s' : Reader F} {r : Fields} (h : Seen past s)
    (hput : Puts s s' (chunk r).toList (said s r))
    (htext : s'.agentTranscript = if endsTurn r then "" else s.agentTranscript ++ delta r) :
    Seen (past ++ [r]) (knowing s' r) := by
  have hqueued := queued_next h hput
  refine ⟨?_, ?_, ?_⟩
  · unfold knowing
    split_ifs
    · exact hqueued
    · exact hqueued
  · rw [sinceTurn_append, ← h.transcript, ← htext, knowing]
    split_ifs <;> rfl
  · rw [knowing_received, hput.received, h.received, List.any_append, List.any_cons, List.any_nil,
      Bool.or_false]

def left : Except (Reader F) (Reader F) → List (Option (Payload F))
  | .ok s | .error s => (close s).gecxToClientQueue

theorem close_queue (s : Reader F) : (close s).gecxToClientQueue = s.gecxToClientQueue ++
    (if s.providerEndReceived && !s.sessionEndForwarded then
      [some (.sessionEnd .cesEndSession)] else []) ++
    [none] := by
  unfold close
  split_ifs
  · rfl
  · rw [List.append_nil]

theorem left_iff {messages : List Fields} {s : Reader F} (h : Queued messages s) :
    AsPromised messages (close s).gecxToClientQueue ↔
      ((∃ r ∈ messages, Terminal r) → s.providerEndReceived = true) := by
  obtain ⟨payloads, hqueue, haudio, htexts, quiet⟩ := h.queue
  have hopen : s.sessionEndForwarded = false := h.forwarded
  have hs : s.gecxToClientQueue = payloads.map some := hqueue
  rw [close_queue, hopen, hs]
  cases s.providerEndReceived with
  | true => simpa using asPromised_iff [.cesEndSession] haudio htexts quiet
  | false => simpa using asPromised_iff [] haudio htexts quiet

theorem forwarded_promised {messages : List Fields} {s : Reader F} (h : Queued messages s) :
    AsPromised messages
      (close (s.put (.sessionEnd .cesEndSession)).forwardEnd).gecxToClientQueue := by
  obtain ⟨payloads, hqueue, haudio, htexts, quiet⟩ := h.queue
  have hs : s.gecxToClientQueue = payloads.map some := hqueue
  rw [close_queue]
  simpa [Reader.forwardEnd, Reader.put, hs] using asPromised_iff
    [.cesEndSession] haudio htexts quiet

/-- After a go-away the end is told again if it is known otherwise. -/
theorem goAway_iff {messages : List Fields} {s : Reader F} (h : Queued messages s) :
    AsPromised messages (close (s.put (.sessionEnd .cesGoAway))).gecxToClientQueue ↔
      s.providerEndReceived = false := by
  obtain ⟨payloads, hqueue, haudio, htexts, quiet⟩ := h.queue
  have hopen : s.sessionEndForwarded = false := h.forwarded
  have hs : s.gecxToClientQueue = payloads.map some := hqueue
  rw [close_queue]
  cases hreceived : s.providerEndReceived with
  | true =>
    simpa [Reader.put, hs, hopen, hreceived] using
      asPromised_iff [.cesGoAway, .cesEndSession] haudio htexts quiet
  | false =>
    simpa [Reader.put, hs, hopen, hreceived] using asPromised_iff [.cesGoAway] haudio htexts quiet

section
variable (loads : String → Option Json) (floats : Floats F) (sessionId : String)

/-- A message that ends the session either can be read or comes once the end is known; and a go-away
comes before the end is known, or with the end of a turn. -/
def Orderly (s : Reader F) : Incoming → Prop
  | .message text => ∀ r, responseOf loads text = some r →
      (Terminal r → Readable floats r ∨ s.providerEndReceived = true) ∧
      (Readable floats r → goAway r = true → completesTurn r = true ∨
        s.providerEndReceived = false ∧ ends r = false)
  | _ => True

def AllOrderly (s : Reader F) (incoming : List Incoming) : Prop :=
  ∀ before e after s', incoming = before ++ e :: after →
    before.foldlM (receive loads floats sessionId) s = .ok s' → Orderly loads floats s' e

theorem allOrderly_cons {s : Reader F} {e : Incoming} {rest : List Incoming} :
    AllOrderly loads floats sessionId s (e :: rest) ↔ Orderly loads floats s e ∧
      ∀ s', receive loads floats sessionId s e = .ok s' →
        AllOrderly loads floats sessionId s' rest := by
  constructor
  · intro h
    refine ⟨h [] e rest s rfl rfl, fun s' hs' before e' after s'' hrest hs'' => ?_⟩
    refine h (e :: before) e' after s'' ?_ ?_
    · rw [hrest, List.cons_append]
    · rw [List.foldlM_cons, hs', ok_bind, hs'']
  · rintro ⟨horderly, hrest⟩ before e' after s' heq hs'
    cases before with
    | nil =>
      obtain ⟨rfl, -⟩ := List.cons.inj heq
      obtain rfl := pure_eq_ok.mp hs'
      exact horderly
    | cons first before =>
      obtain ⟨rfl, rfl⟩ := List.cons.inj heq
      rw [List.foldlM_cons, bind_eq_ok] at hs'
      obtain ⟨s₁, hs₁, hs'⟩ := hs'
      exact hrest s₁ hs₁ before e' after s' rfl hs'

theorem terminal_received {past : List Fields} {s : Reader F} (seen : Seen past s)
    (stays : ∀ r ∈ past, goAway r = false) (h : ∃ r ∈ past, Terminal r) :
    s.providerEndReceived = true := by
  obtain ⟨r, hmem, hends | hgoAway⟩ := h
  · rw [seen.received]
    exact List.any_eq_true.mpr ⟨r, hmem, hends⟩
  · rw [stays r hmem] at hgoAway
    cases hgoAway

theorem left_promised {past : List Fields} {s : Reader F} (seen : Seen past s)
    (stays : ∀ r ∈ past, goAway r = false) : AsPromised past (close s).gecxToClientQueue :=
  (left_iff seen.queued).mpr (terminal_received seen stays)

theorem unreadable_iff {past : List Fields} {s s' : Reader F} {r : Fields} (seen : Seen past s)
    (stays : ∀ r ∈ past, goAway r = false) (hput : Puts s s' (chunk r).toList (said s r)) :
    AsPromised (past ++ [r]) (close s').gecxToClientQueue ↔
      (Terminal r → s.providerEndReceived = true) := by
  rw [left_iff (queued_next seen hput), hput.received]
  constructor
  · exact fun h hr => h ⟨r, List.mem_append_right _ (List.mem_singleton_self r), hr⟩
  · rintro h ⟨m, hmem, hm⟩
    rcases List.mem_append.mp hmem with hpast | hlast
    · exact terminal_received seen stays ⟨m, hpast, hm⟩
    · obtain rfl := List.mem_singleton.mp hlast
      exact h hm

theorem leaving_iff {past : List Fields} {s s' : Reader F} {e : Incoming} {rest : List Incoming}
    (he : receive loads floats sessionId s e = .error s') :
    (AsPromised (past ++ taken loads floats sessionId s (e :: rest))
        (left ((e :: rest).foldlM (receive loads floats sessionId) s)) ↔
        AllOrderly loads floats sessionId s (e :: rest)) ↔
      (AsPromised (past ++ responses loads e) (close s').gecxToClientQueue ↔
        Orderly loads floats s e) := by
  have hstops : AllOrderly loads floats sessionId s (e :: rest) ↔ Orderly loads floats s e := by
    rw [allOrderly_cons, he]
    exact and_iff_left fun s'' h => by cases h
  rw [hstops, taken, he, List.append_nil, List.foldlM_cons, he]
  rfl

theorem going_on_iff {past : List Fields} {s s' : Reader F} {e : Incoming} {rest : List Incoming}
    (he : receive loads floats sessionId s e = .ok s') (orderly : Orderly loads floats s e)
    (ih : AsPromised (past ++ responses loads e ++ taken loads floats sessionId s' rest)
      (left (rest.foldlM (receive loads floats sessionId) s')) ↔
        AllOrderly loads floats sessionId s' rest) :
    AsPromised (past ++ taken loads floats sessionId s (e :: rest))
      (left ((e :: rest).foldlM (receive loads floats sessionId) s)) ↔
      AllOrderly loads floats sessionId s (e :: rest) := by
  have hgoes :
    AllOrderly loads floats sessionId s (e :: rest) ↔
      AllOrderly loads floats sessionId s' rest := by
    rw [allOrderly_cons, he]
    refine (and_iff_right orderly).trans ⟨fun h => h s' rfl, fun h s'' heq => ?_⟩
    obtain rfl := Except.ok.inj heq
    exact h
  rw [hgoes, taken, he, ← List.append_assoc, List.foldlM_cons, he, ok_bind]
  exact ih

/-- A message that can be read ends the loop as promised, or with a go-away. -/
theorem readable_iff {past : List Fields} {s s₁ : Reader F} {r : Fields} {text : String}
    {rest : List Incoming} (hr : responseOf loads text = some r)
    (seen : Seen (past ++ [r]) (knowing s₁ r))
    (readable : Readable floats r) (received : s₁.providerEndReceived = s.providerEndReceived)
    (he : receive loads floats sessionId s (.message text) = readTerminal (knowing s₁ r) r)
    (ih : goAway r = false →
      (AsPromised (past ++ [r] ++ taken loads floats sessionId (knowing s₁ r) rest)
      (left (rest.foldlM (receive loads floats sessionId) (knowing s₁ r))) ↔
        AllOrderly loads floats sessionId (knowing s₁ r) rest)) :
    AsPromised (past ++ taken loads floats sessionId s (.message text :: rest))
      (left ((.message text :: rest).foldlM (receive loads floats sessionId) s)) ↔
      AllOrderly loads floats sessionId s (.message text :: rest) := by
  have hresponses : responses loads (.message text) = [r] := by rw [responses, hr]; rfl
  have horderly :
    Orderly loads floats s (.message text) ↔ (goAway r = true → completesTurn r = true ∨
      s.providerEndReceived = false ∧ ends r = false) := by
    refine ⟨fun h => (h r hr).2 readable, fun h r' hr' => ?_⟩
    obtain rfl := Option.some.inj (hr.symm.trans hr')
    exact ⟨fun _ => Or.inl readable, fun _ => h⟩
  unfold readTerminal at he
  split_ifs at he with hdone haway
  · rw [leaving_iff loads floats sessionId he, hresponses, horderly]
    refine iff_of_true (forwarded_promised seen.queued) fun _ => Or.inl ?_
    exact (Bool.and_eq_true_iff.mp hdone).2
  · rw [leaving_iff loads floats sessionId he, hresponses, horderly, goAway_iff seen.queued]
    have hclear : (knowing s₁ r).providerEndReceived = false ↔
        s.providerEndReceived = false ∧ ends r = false := by
      rw [knowing_received, received, Bool.or_eq_false_iff]
    constructor
    · exact fun h _ => Or.inr (hclear.mp h)
    · intro h
      rcases h haway with hturn | h
      · rw [hturn, Bool.and_true] at hdone
        exact Bool.eq_false_iff.mpr hdone
      · exact hclear.mpr h
  · have hstays : goAway r = false := Bool.eq_false_iff.mpr haway
    refine going_on_iff loads floats sessionId he (horderly.mpr fun h => absurd h haway) ?_
    rw [hresponses]
    exact ih hstays

theorem promised_iff (past : List Fields) (s : Reader F) (seen : Seen past s)
    (stays : ∀ r ∈ past, goAway r = false) (incoming : List Incoming) :
    AsPromised (past ++ taken loads floats sessionId s incoming)
      (left (incoming.foldlM (receive loads floats sessionId) s)) ↔
        AllOrderly loads floats sessionId s incoming := by
  induction incoming generalizing past s with
  | nil =>
    rw [taken, List.append_nil]
    refine iff_of_true (left_promised seen stays) ?_
    exact fun before e after s' h => absurd h (by simp)
  | cons e rest ih =>
    have hsilent :
      ∀ s', s' = s → receive loads floats sessionId s e = .error s' → responses loads e = [] →
        Orderly loads floats s e → (AsPromised (past ++ taken loads floats sessionId s (e :: rest))
          (left ((e :: rest).foldlM (receive loads floats sessionId) s)) ↔
            AllOrderly loads floats sessionId s (e :: rest)) := by
      rintro s' rfl he hnone horderly
      rw [leaving_iff loads floats sessionId he, hnone, List.append_nil]
      exact iff_of_true (left_promised seen stays) horderly
    cases e with
    | idle =>
      cases hreceived : s.providerEndReceived with
      | true => exact hsilent s rfl (if_pos hreceived) rfl trivial
      | false =>
        refine going_on_iff loads floats sessionId (if_neg ?_) trivial ?_
        · rw [hreceived]
          exact Bool.false_ne_true
        · rw [responses, List.append_nil]
          exact ih past s seen stays
    | lost => exact hsilent s rfl rfl rfl trivial
    | message text =>
      cases hr : responseOf loads text with
      | none =>
        refine hsilent s rfl ?_ ?_ ?_
        · rw [receive, hr]
        · rw [responses, hr]
          rfl
        · intro r hsome
          rw [hr] at hsome
          cases hsome
      | some r =>
        have hreceive :
          receive loads floats sessionId s (.message text) = readResponse floats sessionId s r := by
          rw [receive, hr]
        rcases readResponse_cases floats sessionId s r with
          ⟨readable, s₁, hs₁, hput, htext⟩ | ⟨unreadable, s₁, hs₁, hput⟩
        · have hseen := seen_next seen hput htext
          refine readable_iff loads floats sessionId hr hseen readable hput.received
            (hreceive.trans hs₁)
            fun haway => ?_
          refine ih (past ++ [r]) (knowing s₁ r) hseen ?_
          exact List.forall_mem_append.mpr ⟨stays, List.forall_mem_singleton.mpr haway⟩
        · rw [leaving_iff loads floats sessionId (hreceive.trans hs₁), responses, hr,
            Option.toList_some,
            unreadable_iff seen stays hput]
          constructor
          · intro h r' hr'
            obtain rfl := Option.some.inj (hr.symm.trans hr')
            exact ⟨fun hterminal => Or.inr (h hterminal), fun readable =>
              absurd readable unreadable⟩
          · exact fun h hterminal => ((h r hr).1 hterminal).resolve_left unreadable

/-- The queue is what the provider's messages promise if and only if all that the reader comes to is
orderly. -/
theorem delivered_iff (incoming : List Incoming) :
    AsPromised (taken loads floats sessionId Reader.start incoming)
      (readFromGecx loads floats sessionId incoming) ↔
      AllOrderly loads floats sessionId Reader.start incoming := by
  have hstart : Seen [] (Reader.start : Reader F) := ⟨Puts.none _, rfl, rfl⟩
  have hqueue : readFromGecx loads floats sessionId incoming =
      left (incoming.foldlM (receive loads floats sessionId) Reader.start) := rfl
  rw [hqueue]
  simpa using promised_iff loads floats sessionId [] Reader.start hstart
    (fun _ h => absurd h List.not_mem_nil)
    incoming

end

/-- A provider that ends the session and then goes away: the browser is told of it twice. -/
theorem goAway_after_end :
    let floats : Floats Unit :=
      ⟨fun _ => some (), fun _ => (), fun _ => none, fun _ => (), fun _ => true⟩
    let incoming := [Incoming.message "\x7b\"endSession\": \x7b\x7d\x7d",
      .message "\x7b\"goAway\": \x7b\x7d\x7d"]
    ¬ AsPromised (taken Json.loads floats "call" Reader.start incoming)
      (readFromGecx Json.loads floats "call" incoming) := by
  intro floats incoming h
  have htwice :
    (readFromGecx Json.loads floats "call" incoming).reduceOption.countP isEnd =
      2 := by decide +kernel
  have honce := h.once
  omega

end VoiceDelivery
