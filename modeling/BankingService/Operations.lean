import BankingService.Library.Runs
import BankingService.CardNetwork
import BankingService.FraudAlerts
import BankingService.Ledger

/-! The service's calls, each taken as one atomic step on the database. A call that raises has
rolled back, apart from what it committed before. -/
namespace BankingService

open Python Relational Checked Runs

inductive Operation where
  | processAuthorization (r : CardAuthHoldRequest) (f : FraudEvaluation)
  | processSettlement (r : CardSettlementRequest)
  | processReversal (r : CardReversalRequest)
  | executeBillPayment (r : BillPaymentRequest)
  | reversePostedFee (accountId : Uuid) (transactionId : String)
  | voidFraudAuthorizationHold (accountId : Uuid) (authorizationId : String) (fraudAlertId : Uuid)
  | applyFraudProvisionalCredit (accountId : Uuid) (transactionId : String) (fraudAlertId : Uuid)
  | applyLimitIncrease (accountId : Uuid) (requestedLimitCents : ℤ)
  | triageFraudCase (r : TriageRequest)
  | createDepositAccount (r : DepositAccountCreateRequest) (authProviderUid : String)
      (idempotencyKey : Option String) (accountNumber : ℕ)
  | executeTransfer (r : TransferRequest)

def outcome {α : Type} (r : Db × Except PyException α) : Db × Except PyException Unit :=
  (r.1, r.2.map fun _ => ())

def perform (sha256 : String → String) (db : Db) (env : Ambient) :
    Operation → Db × Except PyException Unit
  | .processAuthorization r f => outcome (processAuthorization db env r f)
  | .processSettlement r => outcome (commitOrRollback db (processSettlement db env r))
  | .processReversal r => outcome (commitOrRollback db (processReversal db env r))
  | .executeBillPayment r =>
    outcome (commitOrRollback db (executeBillPaymentForUser sha256 db env r))
  | .reversePostedFee accountId transactionId =>
    outcome (commitOrRollback db (reversePostedFee db env accountId transactionId))
  | .voidFraudAuthorizationHold accountId authorizationId fraudAlertId =>
    outcome (commitOrRollback db (voidOnAccount db env accountId authorizationId fraudAlertId))
  | .applyFraudProvisionalCredit accountId transactionId fraudAlertId =>
    outcome (commitOrRollback db (creditOnAccount db env accountId transactionId fraudAlertId))
  | .applyLimitIncrease accountId limit =>
    outcome (commitOrRollback db (applyLimitIncrease db env accountId limit))
  | .triageFraudCase r => outcome (commitOrRollback db (triageFraudCase sha256 db env r))
  | .createDepositAccount r uid key number =>
    outcome (createDepositAccount db env r uid key number)
  | .executeTransfer r => outcome (commitOrRollback db (executeTransfer sha256 db env r))

def operations (sha256 : String → String) (admits : Operation → Prop) :
    Machine Db (Ambient × Operation) :=
  ⟨fun _ e => admits e.2, fun db e => (perform sha256 db e.1 e.2).1⟩

end BankingService
