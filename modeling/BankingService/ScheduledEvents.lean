import BankingService.Library.Dict
import BankingService.Library.ReadCommitted
import BankingService.PythonValues

/-! The data generator's scheduled events: their rows, what a worker sends to the bank for one of
them, and the deliveries and cancellations as concurrent transactions. Every repository call reads
its row, changes it in memory and writes it back. -/
namespace BankingService.Scheduler

open Python Relational ReadCommitted

inductive EventStatus where
  | scheduled
  | dispatching
  | succeeded
  | failed
  | canceled
  deriving DecidableEq

/-- The statuses that `mark_dispatching` leaves alone. -/
def EventStatus.Terminal (s : EventStatus) : Prop := s = .succeeded ∨ s = .canceled

instance : DecidablePred EventStatus.Terminal := fun _ => inferInstanceAs (Decidable (_ ∨ _))

structure SyntheticScheduledEvent where
  id : Uuid
  scheduleId : String
  scenarioId : Option String
  executionId : Option String
  eventId : String
  eventType : String
  personaId : Option String
  status : EventStatus
  scheduledFor : Timestamp
  payload : List (String × Json)
  resultPayload : List (String × Json)
  attempts : ℕ
  lastError : Option String
  dispatchedAt : Option Timestamp
  completedAt : Option Timestamp
  canceledAt : Option Timestamp

instance : Row SyntheticScheduledEvent Uuid := .ofKey SyntheticScheduledEvent.id

/-- The status column after an update; it is written only if it differs from what was loaded. -/
def writtenStatus (loaded new current : EventStatus) : EventStatus :=
  if new = loaded then current else new

inductive OutcomeLabel where
  | expectedFraud
  | confirmedFraud
  | falsePositive
  | confirmedLegitimate
  | customerDisputed
  | unresolved
  | notApplicable
  deriving DecidableEq

namespace OutcomeLabel

def value : OutcomeLabel → String
  | expectedFraud => "expected_fraud"
  | confirmedFraud => "confirmed_fraud"
  | falsePositive => "false_positive"
  | confirmedLegitimate => "confirmed_legitimate"
  | customerDisputed => "customer_disputed"
  | unresolved => "unresolved"
  | notApplicable => "not_applicable"

/-- `OutcomeLabel(value)`, which raises for any other value. -/
def ofJson? : Json → Option OutcomeLabel
  | .str s => [expectedFraud, confirmedFraud, falsePositive, confirmedLegitimate, customerDisputed,
      unresolved, notApplicable].find? fun label => label.value = s
  | _ => none

def disputes (l : OutcomeLabel) : Bool :=
  l = customerDisputed ∨ l = confirmedFraud ∨ l = expectedFraud

end OutcomeLabel

inductive BankRequest where
  | authorize (payload : Json)
  | settle (rrn amountCents : Json)
  | reverse (rrn : Json)
  | customerAction (fraudAlertId : Json) (label : OutcomeLabel) (disputed : List Json)
      (idempotencyKey : String)

/-- Oldest completion first; a missing time comes last. -/
def completedFirst (a b : SyntheticScheduledEvent) : Bool :=
  match a.completedAt, b.completedAt with
  | _, none => true
  | none, some _ => false
  | some x, some y => x ≤ y

/-- `get_context`: the completed events of the schedule, for the persona if there is one. -/
def completedBefore (events : Table SyntheticScheduledEvent) (scheduleId : String)
    (personaId : Option String) : List SyntheticScheduledEvent :=
  (events.select fun e => e.scheduleId = scheduleId ∧ e.status = .succeeded ∧
    (personaId.getD "" = "" ∨ e.personaId = personaId)).mergeSort completedFirst

def latestAuthContext (context : List SyntheticScheduledEvent) (personaId : Option String) :
    List (String × Json) :=
  ((context.reverse.find? fun e => (personaId.getD "" = "" ∨ e.personaId = personaId) ∧
    e.eventType = "authorization" ∧
      ((lookup e.resultPayload "authorization_id").any Python.truthy)).map
    SyntheticScheduledEvent.resultPayload).getD []

/-- `dict(payload.get("auth_context") or {})`, or else the latest authorization's result. -/
def customerContext (marked : SyntheticScheduledEvent) (context : List SyntheticScheduledEvent) :
    Option (List (String × Json)) :=
  match (lookup marked.payload "auth_context").filter Python.truthy with
  | none => some (latestAuthContext context marked.personaId)
  | some (.obj fields) => some fields
  | some _ => none

def orText (a : Option String) (b : String) : String := if a.getD "" = "" then b else a.getD ""

def authContext (marked : SyntheticScheduledEvent) (context : List SyntheticScheduledEvent) :
    Option (List (String × Json)) :=
  if marked.eventType = "customer_action" then customerContext marked context
  else some (latestAuthContext context marked.personaId)

/-- The request that the worker makes of a marked event; `none` where it raises first. -/
def bankRequest (marked : SyntheticScheduledEvent) (context : List SyntheticScheduledEvent) :
    Option BankRequest := do
  if marked.eventType = "authorization" then
    return .authorize (← lookup marked.payload "authorization_payload")
  let auth ← authContext marked context
  if marked.eventType = "settlement" then
    return .settle (← lookup auth "retrieval_reference_number")
      (← lookup marked.payload "amount_cents")
  if marked.eventType = "reversal" then
    return .reverse (← lookup auth "retrieval_reference_number")
  let alert ← (lookup auth "fraud_alert_id").filter Python.truthy
  let label ← OutcomeLabel.ofJson?
    ((lookup marked.payload "outcome_label").getD (.str "unresolved"))
  let disputed := if label.disputes then
    ((lookup auth "authorization_id").filter Python.truthy).toList else []
  if disputed.all hashable then
    return .customerAction alert label disputed
      (orText marked.scenarioId marked.scheduleId ++ ":" ++
        orText marked.executionId marked.scheduleId ++ ":" ++ marked.eventId)
  none

/-- What comes back: a transport error, or a status code with a payload. Persisting the outcome of
a customer action is a second request, which may raise as well. -/
inductive BankAnswer where
  | raised (error : String)
  | response (statusCode : ℤ) (payload : Json) (persisting : Option String)

inductive Report where
  | succeeded (result : List (String × Json))
  | failed (error : String) (result : List (String × Json))

def Report.status : Report → EventStatus
  | succeeded _ => .succeeded
  | failed _ _ => .failed

/-- `payload.get(a) or payload.get(b)`. -/
def eitherField (payload : Json) (a b : String) : Json :=
  (((payload.get a).filter Python.truthy).or (payload.get b)).getD .null

def authorizationReport (request : Json) (label : Option Json) : BankAnswer → Report
  | .raised error => .failed error []
  | .response code (.obj fields) _ =>
    match request with
    | .obj _ =>
      let payload := Json.obj fields
      let result := [("authorization", payload),
        ("authorization_id", eitherField payload "authorization_id" "id"),
        ("fraud_alert_id", (payload.get "fraud_alert_id").getD .null),
        ("retrieval_reference_number", (request.get "retrieval_reference_number").getD .null),
        ("card_token", (request.get "card_token").getD .null),
        ("outcome_label", label.getD .null), ("status_code", .int code)]
      match payload.get "action_code" with
      | some (.str "00") =>
        if code = 200 then .succeeded result
        else .failed "Authorization declined or failed." result
      | _ => .failed "Authorization declined or failed." result
    | _ => .failed "AttributeError" []
  | .response _ _ _ => .failed "AttributeError" []

/-- `{**context, key: value, ...}`. -/
def withFields (context fields : List (String × Json)) : List (String × Json) :=
  fields.foldl (fun d f => Dict.set d f.1 f.2) context

def settlementReport (auth : List (String × Json)) : BankAnswer → Report
  | .raised error =>
    .failed "Settlement failed." (withFields auth [("settlement",
      .obj [("detail", .str ("Settlement request failed: " ++ error))]), ("transaction_id", .null),
      ("status_code", .int 0)])
  | .response code (.obj fields) _ =>
    let payload := Json.obj fields
    let result := withFields auth [("settlement", payload),
      ("transaction_id", eitherField payload "transaction_id" "id"), ("status_code", .int code)]
    if code = 200 then .succeeded result else .failed "Settlement failed." result
  | .response _ _ _ => .failed "AttributeError" []

def reversalReport (auth : List (String × Json)) : BankAnswer → Report
  | .raised error =>
    .failed "Reversal failed." (withFields auth [("reversal",
      .obj [("detail", .str ("Reversal request failed: " ++ error))]), ("status_code", .int 0)])
  | .response code payload _ =>
    let result := withFields auth [("reversal", payload), ("status_code", .int code)]
    if code = 200 then .succeeded result else .failed "Reversal failed." result

def customerActionReport (auth : List (String × Json)) (label : OutcomeLabel) :
    BankAnswer → Report
  | .raised error => .failed error []
  | .response code payload persisting =>
    let result := withFields auth [("customer_action", payload),
      ("outcome_label", .str label.value), ("status_code", .int code)]
    match payload with
    | .obj _ =>
      match persisting with
      | some error => .failed error result
      | none =>
        if code = 200 ∧ (payload.get "success").any Python.truthy then .succeeded result
        else .failed "Customer action failed." result
    | _ => if code = 200 then
      .failed "AttributeError" [] else .failed "Customer action failed." result

def reportOf (marked : SyntheticScheduledEvent) (context : List SyntheticScheduledEvent)
    (answer : BankAnswer) : BankRequest → Report
  | .authorize payload =>
    authorizationReport payload (lookup marked.payload "outcome_label") answer
  | .settle _ _ => settlementReport ((authContext marked context).getD []) answer
  | .reverse _ => reversalReport ((authContext marked context).getD []) answer
  | .customerAction _ label _ _ =>
    customerActionReport ((authContext marked context).getD []) label answer

structure Store where
  events : Table SyntheticScheduledEvent
  sent : List (Uuid × BankRequest)

def Store.update (db : Store) (id : Uuid) (f : SyntheticScheduledEvent → SyntheticScheduledEvent)
    (key : ∀ e, (f e).id = e.id) : Store :=
  { db with events := db.events.update id f fun a _ h => (key a).symm.trans h }

/-- `mark_dispatching` on the row that it has loaded. -/
def markDispatching (db : Store) (now : Timestamp) (loaded : SyntheticScheduledEvent) : Store :=
  if loaded.status.Terminal then db
  else db.update loaded.id (fun e => { e with
    status := writtenStatus loaded.status .dispatching e.status,
    attempts := loaded.attempts + 1, dispatchedAt := some now }) fun _ => rfl

/-- `mark_succeeded` and `mark_failed`. -/
def record (db : Store) (now : Timestamp) (loaded : SyntheticScheduledEvent) : Report → Store
  | .succeeded result => db.update loaded.id (fun e => { e with
      status := writtenStatus loaded.status .succeeded e.status, resultPayload := result,
      completedAt := some now, lastError := none }) fun _ => rfl
  | .failed error result => db.update loaded.id (fun e => { e with
      status := writtenStatus loaded.status .failed e.status,
      lastError := some (String.ofList (error.toList.take 1024)),
      resultPayload := result }) fun _ => rfl

/-- The events that `cancel_future_events` selects. -/
def futureEvents (db : Store) (scheduleId : String) (now : Timestamp) :
    List SyntheticScheduledEvent :=
  db.events.select fun e => e.scheduleId = scheduleId ∧
    (e.status = .scheduled ∨ e.status = .failed) ∧ now ≤ e.scheduledFor

def cancelEvent (now : Timestamp) (db : Store) (loaded : SyntheticScheduledEvent) : Store :=
  db.update loaded.id (fun e => { e with
    status := writtenStatus loaded.status .canceled e.status, canceledAt := some now }) fun _ => rfl

structure Delivery where
  id : Uuid
  now : Timestamp
  answer : BankAnswer

inductive DeliverySeen where
  | start
  | snapshot (event : Option SyntheticScheduledEvent)
  | found (loaded : SyntheticScheduledEvent)
  | missing
  | marked
  | recorded (marked : Option SyntheticScheduledEvent)
  | contextRead (marked : SyntheticScheduledEvent) (context : List SyntheticScheduledEvent)
  | reporting (report : Report)
  | reportFound (report : Report) (loaded : Option SyntheticScheduledEvent)

inductive CancelSeen where
  | start
  | selected (events : List SyntheticScheduledEvent)

inductive Call where
  | deliver (d : Delivery)
  | cancel (scheduleId : String) (now : Timestamp)

inductive Reply where
  | notFound
  | answered (status : EventStatus)
  | raised
  | canceledEvents (count : ℕ)
  deriving DecidableEq

@[reducible] def Seen : Call → Type
  | .deliver _ => DeliverySeen
  | .cancel _ _ => CancelSeen

def needsContext (e : SyntheticScheduledEvent) : Prop :=
  e.eventType = "settlement" ∨ e.eventType = "reversal" ∨ e.eventType = "customer_action"

instance : DecidablePred needsContext := fun _ => inferInstanceAs (Decidable (_ ∨ _))

namespace DeliverySeen

def action (d : Delivery) : DeliverySeen → Action Uuid
  | .start | .marked | .reporting _ => .read
  | .snapshot (some e) => if e.status.Terminal then .run [] else .read
  | .recorded (some e) => if needsContext e then .read else .run []
  | .found _ | .reportFound _ _ => .run [d.id]
  | .snapshot none | .missing | .recorded none | .contextRead _ _ => .run []

def observe (db : Store) (d : Delivery) : DeliverySeen → DeliverySeen
  | .start => .snapshot (db.events.get? d.id)
  | .snapshot (some _) =>
    match db.events.get? d.id with
    | some loaded => .found loaded
    | none => .missing
  | .marked => .recorded (db.events.get? d.id)
  | .recorded (some e) => .contextRead e (completedBefore db.events e.scheduleId e.personaId)
  | .reporting report => .reportFound report (db.events.get? d.id)
  | seen => seen

/-- Sends the request of a marked event, or goes on to report why there is none. The status that the
event was marked with is not looked at. -/
def send (db : Store) (d : Delivery) (e : SyntheticScheduledEvent)
    (context : List SyntheticScheduledEvent) : Outcome Store DeliverySeen Reply :=
  match bankRequest e context with
  | some request => .resume { db with sent := db.sent ++ [(d.id, request)] }
      (.reporting (reportOf e context d.answer request))
  | none => .resume db (.reporting (.failed "KeyError" []))

def body (db : Store) (d : Delivery) : DeliverySeen → Outcome Store DeliverySeen Reply
  | .snapshot none => .finish db .notFound
  | .snapshot (some e) => .finish db (.answered e.status)
  | .found loaded => .resume (markDispatching db d.now loaded) .marked
  | .recorded (some e) =>
    if e.eventType = "authorization" then send db d e []
    else .resume db (.reporting (.failed ("Unsupported scheduled event type: " ++ e.eventType) []))
  | .contextRead e context => send db d e context
  | .reportFound report (some loaded) =>
    .finish (record db d.now loaded report) (.answered report.status)
  | _ => .finish db .raised

end DeliverySeen

/-- Every statement of the scheduler, at READ COMMITTED and without explicit locks. -/
def scheduler : Program Store Call Seen Uuid Reply where
  enter
    | .deliver _ => .start
    | .cancel _ _ => .start
  action
    | .deliver d, seen => seen.action d
    | .cancel _ _, .start => .read
    | .cancel _ _, .selected events => .run (events.map SyntheticScheduledEvent.id)
  observe db
    | .deliver d, seen => seen.observe db d
    | .cancel scheduleId now, .start => .selected (futureEvents db scheduleId now)
    | .cancel _ _, seen => seen
  body db
    | .deliver d, seen => seen.body db d
    | .cancel _ now, .selected events =>
      .finish (events.foldl (cancelEvent now) db) (.canceledEvents events.length)
    | .cancel _ _, .start => .finish db .raised

end BankingService.Scheduler
