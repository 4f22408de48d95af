import Mathlib.Logic.Function.Basic
import BankingService.Library.Dict
import BankingService.Library.Runs
import BankingService.ProposalEvidence

/-! The voice agent's tool calls. Each call is a task that passes the ordered gate, the checks
before the tool, the bank and the update after it; between two awaits it runs alone. -/
namespace BankingService.AgentSession

open Python Relational ProposalEvidence

inductive Tool where
  | unfreezeCard
  | getOpenFraudAlert
  | reviewFraudSelection
  | discoverPlaybooks
  | recordPlaybookDecision
  | prepareActionProposal
  | commitActionProposal
  | decideActionProposal
  | triageCustomerReportedFraud
  | reverseOverdraftFee
  | getTransactionHistory
  | searchKnowledge
  | prepareCustomerReportedFraudConfirmation
  | setConversationLanguage
  | endConsultation
  | transferToHuman
  deriving DecidableEq

/-- `ORDERED_TOOL_NAMES`. -/
def Tool.ordered : Tool → Bool
  | recordPlaybookDecision | prepareActionProposal | commitActionProposal | decideActionProposal
  | triageCustomerReportedFraud | reverseOverdraftFee | unfreezeCard
  | prepareCustomerReportedFraudConfirmation | setConversationLanguage => true
  | _ => false

/-- `CONSEQUENTIAL_TOOLS`. -/
def Tool.consequential : Tool → Bool
  | unfreezeCard | reverseOverdraftFee | commitActionProposal | triageCustomerReportedFraud => true
  | _ => false

/-- `PROPOSAL_DECISION_TOOLS`. -/
def Tool.decision : Tool → Bool
  | commitActionProposal | decideActionProposal => true
  | _ => false

structure Call where
  tool : Tool
  proposalId : String
  decision : String
  playbookId : String
  deriving DecidableEq

/-- `structuredContent`. -/
structure BankResult where
  success : Bool
  proposalId : String
  actionType : String
  contractVersion : String
  decision : String
  recoveryClass : String
  deriving DecidableEq

/-- `succeeded` is what `tool_response_succeeded` makes of the whole response. -/
structure Response where
  status : String
  succeeded : Bool
  structured : Option BankResult
  deriving DecidableEq

def Response.told (status : String) : Response := ⟨status, status = "ALREADY_COMMITTED", none⟩

/-- The parts of the session's state that concern proposals; `completed` is the ledger of resolved
ones and `latestTurn` the last turn of the customer. -/
structure Session where
  pending : Option PendingProposal
  completed : Dict String String
  selection : Option String
  latestTurn : Option (String × EpochTime)
  deriving DecidableEq

def COMMITTED_RESOLUTION : String := "COMMITTED"

def completedProposalResult (s : Session) (c : Call) : Option Response :=
  if ¬ c.tool.decision ∨ c.proposalId = "" then none
  else match truthy (s.completed.get? c.proposalId) with
    | none => none
    | some resolution =>
      let pendingId := (s.pending.map (·.proposalId)).getD ""
      if pendingId ≠ "" ∧ pendingId ≠ c.proposalId then
        some (.told "AUTHORIZATION_REQUIRED")
      else if resolution = COMMITTED_RESOLUTION then some (.told "ALREADY_COMMITTED")
      else some (.told "PROPOSAL_ALREADY_RESOLVED")

def playbookDecisionRequiredResult (s : Session) (c : Call) : Option Response :=
  if c.tool ≠ .prepareActionProposal then none
  else if c.playbookId ≠ "" ∧ s.selection = some c.playbookId then none
  else some (.told "PLAYBOOK_DECISION_REQUIRED")

/-- The pending proposal after the call's look at it: a decision on a later turn is attested. -/
def attested (s : Session) (c : Call) : Option PendingProposal :=
  s.pending.map fun p =>
    attestModelDecision p c.proposalId p.actionType ((s.latestTurn.map (·.1)).getD "")
      ((s.latestTurn.map (·.2)).getD 0)

def recordCompletedProposal (s : Session) (proposalId resolution : String) : Session :=
  if proposalId = "" then s
  else { s with completed := s.completed.set proposalId resolution }

def recordPlaybookSelection (s : Session) (c : Call) : Session :=
  match c.tool with
  | .discoverPlaybooks => { s with selection := none }
  | .recordPlaybookDecision =>
    { s with
      selection := if upper c.decision = "SELECT" ∧ c.playbookId ≠ "" then some c.playbookId
        else none }
  | _ => s

def resolvedId (c : Call) (r : BankResult) : String :=
  if c.proposalId ≠ "" then c.proposalId else r.proposalId

def failedCommit (s : Session) (recoveryClass : String) : Session :=
  match s.pending with
  | some p =>
    if p.evidenceState ≠ .commitInFlight then s
    else if recoveryClass = "REPRESENT_AND_RECONFIRM" then
      { s with pending := some (requireRePresentation p) }
    else if recoveryClass ≠ "" ∧ recoveryClass ≠ "RETRY_SAME_PROPOSAL" then
      { s with pending := none }
    else
      { s with
        pending := some (markCommitRetry p "TOOL_RESULT_NOT_SUCCESSFUL:commit_action_proposal") }
  | none => s

def PROPOSAL_LEDGER_STATUSES : List String := ["ALREADY_COMMITTED", "PROPOSAL_ALREADY_RESOLVED"]

def succeeded (s : Session) (c : Call) (result : BankResult) : Session :=
  match c.tool with
  | .prepareActionProposal =>
    if result.actionType = "" then s
    else { s with
      pending := some (createPendingProposal result.proposalId result.actionType
        result.contractVersion (s.latestTurn.map (·.1))) }
  | .decideActionProposal =>
    let decision :=
      if c.decision ≠ "" then c.decision
      else if result.decision ≠ "" then result.decision else "RESOLVED"
    recordCompletedProposal { s with pending := none } (resolvedId c result) (upper decision)
  | .commitActionProposal =>
    recordCompletedProposal { s with pending := none } (resolvedId c result) COMMITTED_RESOLUTION
  | _ => s

def applyResult (s : Session) (c : Call) (r : Response) : Session :=
  match r.structured.filter (·.success) with
  | some result => succeeded s c result
  | none =>
    if c.tool = .commitActionProposal ∧ r.status ∉ PROPOSAL_LEDGER_STATUSES then
      failedCommit s ((r.structured.map (·.recoveryClass)).getD "")
    else s

/-- `_after_tool_callback_impl`. -/
def afterTool (s : Session) (c : Call) (r : Response) : Session :=
  applyResult (if r.succeeded then recordPlaybookSelection s c else s) c r

/-- `_on_tool_error_callback_impl`. -/
def onToolError (s : Session) (c : Call) : Session :=
  if c.tool = .commitActionProposal then
    { s with
      pending := s.pending.map fun p => markCommitRetry p "TOOL_ERROR:commit_action_proposal" }
  else s

/-- `change_voice_language`; `changed` says that the language is another one or a fallback. -/
def changeVoiceLanguage (s : Session) (changed : Bool) : Session :=
  match s.pending with
  | some p =>
    if p.evidenceState = .commitInFlight ∨ p.evidenceState = .commitRetry ∨ changed = false then s
    else { s with pending := some (requireRePresentation p) }
  | none => s

/-- Where a call's task is. While the reset generation is checked it holds the proposal to execute,
or the proposal of the playbook that it writes back. -/
inductive Phase where
  | waiting
  | checkingLedger (answer : Response)
  | checking (held : Option PendingProposal)
  | running
  | told (answer : Response)
  | answered (answer : Response)
  | refreshing
  deriving DecidableEq

structure Task where
  call : Call
  phase : Phase
  deriving DecidableEq

/-- `_before_tool_callback_impl` up to its first await. Whether one of the guards that do not look
at proposals refuses is up to the event. -/
def beforeTool (s : Session) (c : Call) (refused : Bool) : Session × Phase :=
  match completedProposalResult s c with
  | some answer => (s, if c.tool.consequential then .checkingLedger answer else .told answer)
  | none =>
    match playbookDecisionRequiredResult s c with
    | some answer => (s, .told answer)
    | none =>
      if c.tool.decision then
        let s := { s with pending := attested s c }
        let actionType := (s.pending.map (·.actionType)).getD ""
        if (proposalEvidenceError s.pending c.proposalId actionType).isSome then
          (s, .told (.told "AUTHORIZATION_REQUIRED"))
        else if c.tool.consequential then (s, .checking s.pending)
        else (s, .running)
      else if refused then (s, .told (.told ""))
      else if c.tool.consequential then (s, .checking s.pending)
      else (s, .running)

def resumeChecked (s : Session) (c : Call) (held : Option PendingProposal) (valid refused : Bool) :
    Session × Phase :=
  if ¬ valid then (s, .told (.told "SESSION_INVALIDATED"))
  else match c.tool with
    | .commitActionProposal => ({ s with pending := held.map markCommitInFlight }, .running)
    | .triageCustomerReportedFraud =>
      if refused then (s, .told (.told "ACTION_NOT_COMPLETED"))
      else ({ s with pending := held }, .running)
    | _ => if refused then (s, .told (.told "ACTION_NOT_COMPLETED")) else (s, .running)

/-- `owner` is the task that holds the gate. -/
structure State where
  session : Session
  owner : Option ℕ
  task : ℕ → Option Task

def State.initial : State := ⟨⟨none, [], none, none⟩, none, fun _ => none⟩

/-- `stop` cancels a task at an await, or ends it by an exception. The customer's turns and the
presentations are observed and a runtime may fall back to English at any time. -/
inductive Event where
  | start (i : ℕ) (call : Call)
  | enter (i : ℕ) (refused : Bool)
  | checked (i : ℕ) (valid refused : Bool)
  | answer (i : ℕ) (r : Response)
  | error (i : ℕ)
  | after (i : ℕ)
  | refreshed (i : ℕ)
  | stop (i : ℕ)
  | setLanguage (i : ℕ) (changed : Bool)
  | turn (id : String) (observedAt : EpochTime)
  | present (id : String) (observedAt : EpochTime)
  | fallback

def DECISIONS : List String := ["DECLINE", "REVISE", "CANCEL"]

def Response.Succeeds (r : Response) : Prop := (r.structured.filter (·.success)).isSome = true

instance : DecidablePred Response.Succeeds := fun _ => inferInstanceAs (Decidable (_ = true))

/-- The bank accepts only its own decisions and names the proposals that it prepares; the gate is
passed one task at a time. -/
def Enabled (w : State) : Event → Prop
  | .start i _ => w.task i = none
  | .enter i _ => ∃ c, w.task i = some ⟨c, .waiting⟩ ∧ (c.tool.ordered = true → w.owner = none)
  | .checked i _ _ =>
    ∃ c, (∃ answer, w.task i = some ⟨c, .checkingLedger answer⟩) ∨
      ∃ held, w.task i = some ⟨c, .checking held⟩
  | .answer i r => ∃ c, w.task i = some ⟨c, .running⟩ ∧
      (c.tool = .decideActionProposal → r.Succeeds → c.decision ∈ DECISIONS) ∧
      (c.tool = .prepareActionProposal → ∀ result, r.structured = some result →
        result.success = true → result.proposalId ≠ "")
  | .error i => ∃ c, w.task i = some ⟨c, .running⟩
  | .after i => ∃ c r, w.task i = some ⟨c, .told r⟩ ∨ w.task i = some ⟨c, .answered r⟩
  | .refreshed i => ∃ c, w.task i = some ⟨c, .refreshing⟩
  | .stop i => ∃ t, w.task i = some t
  | .setLanguage i _ => ∃ c, w.task i = some ⟨c, .running⟩ ∧ c.tool = .setConversationLanguage
  | _ => True

def State.ended (w : State) (i : ℕ) (s : Session) : State where
  session := s
  owner := if w.owner = some i then none else w.owner
  task := Function.update w.task i none

def State.moved (w : State) (i : ℕ) (c : Call) (r : Session × Phase) : State :=
  { w with session := r.1, task := Function.update w.task i (some ⟨c, r.2⟩) }

/-- The update after the tool; a fee's reversal then awaits the account. -/
def afterCallback (w : State) (i : ℕ) (c : Call) (r : Response) : State :=
  let s := afterTool w.session c r
  if c.tool = .reverseOverdraftFee ∧ r.Succeeds then w.moved i c (s, .refreshing)
  else w.ended i s

def next (w : State) : Event → State
  | .start i c => { w with task := Function.update w.task i (some ⟨c, .waiting⟩) }
  | .enter i refused =>
    match w.task i with
    | some ⟨c, .waiting⟩ =>
      { w.moved i c (beforeTool w.session c refused) with
        owner := if c.tool.ordered then some i else w.owner }
    | _ => w
  | .checked i valid refused =>
    match w.task i with
    | some ⟨c, .checkingLedger answer⟩ =>
      w.moved i c (w.session, .told (if valid then answer else .told "SESSION_INVALIDATED"))
    | some ⟨c, .checking held⟩ => w.moved i c (resumeChecked w.session c held valid refused)
    | _ => w
  | .answer i r =>
    match w.task i with
    | some ⟨c, .running⟩ => w.moved i c (w.session, .answered r)
    | _ => w
  | .error i =>
    match w.task i with
    | some ⟨c, .running⟩ => w.ended i (onToolError w.session c)
    | _ => w
  | .after i =>
    match w.task i with
    | some ⟨c, .told r⟩ => afterCallback w i c r
    | some ⟨c, .answered r⟩ => afterCallback w i c r
    | _ => w
  | .refreshed i => w.ended i w.session
  | .stop i => w.ended i w.session
  | .setLanguage _ changed => { w with session := changeVoiceLanguage w.session changed }
  | .turn id observedAt =>
    { w with session := { w.session with latestTurn := some (id, observedAt) } }
  | .present id observedAt =>
    { w with
      session := { w.session with
        pending := w.session.pending.map fun p => markProposalPresented p id observedAt } }
  | .fallback => { w with session := changeVoiceLanguage w.session true }

def calls : Runs.Machine State Event := ⟨Enabled, next⟩

end BankingService.AgentSession
