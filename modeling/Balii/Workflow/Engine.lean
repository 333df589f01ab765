import Balii.Lib.Alone
import Balii.System
import Balii.Workflow.Worker
/-!
# Workflow.Engine — the processes with the worker, the webhooks and the people around them

A task is one handler, alone; what others commit falls between the steps of a process.  A task that fails, or whose
completion is lost, is tried again.
-/
namespace Balii

open Rowdb Rowdb.System Bpmn

/-! ## Tasks -/

/-- The handler is performed and completes its task. -/
def serveTask (cfg : Config) (topic : Topic) (v : Vars Value) (s : Db) (out : List (String × Value)) (s' : Db) : Prop :=
  isFaulty v topic = false ∧ ∃ env, Performs (Regime.alone (platform cfg)) (handler cfg topic v env) s (.ok out) s'

/-- The handler is performed to some end, and the task stays. -/
def attemptTask (cfg : Config) (topic : Topic) (v : Vars Value) (s s' : Db) : Prop :=
  isFaulty v topic = false ∧ ∃ env r, Performs (Regime.alone (platform cfg)) (handler cfg topic v env) s r s'

/-- A handler, computed. -/
def execTask (cfg : Config) (topic : Topic) (v : Vars Value) (env : TaskEnv) (s : Db) : Option (List (String × Value) × Db) :=
  if isFaulty v topic = true then none
  else match runAlone (S := platform cfg) 64 (handler cfg topic v env) s with
    | some (.ok out, s') => some (out, s')
    | _ => none

theorem execTask_serves (cfg : Config) (topic : Topic) (v : Vars Value) (env : TaskEnv) (s : Db) (out : List (String × Value))
    (s' : Db) (h : execTask cfg topic v env s = some (out, s')) :
    serveTask cfg topic v s out s' ∧ attemptTask cfg topic v s s' := by
  unfold execTask at h
  split at h
  · cases h
  · rename_i hf
    have hf := Bool.eq_false_iff.2 hf
    split at h
    · rename_i out' s₁ hrun
      cases h
      have hp := runAlone_performs (S := platform cfg) (.saveInvalidWebhook "") _ _ _ _ _ hrun
      exact ⟨⟨hf, env, hp⟩, hf, env, _, hp⟩
    · cases h

/-! ## Messages -/

def PaymentCallbackMessage.variables (m : PaymentCallbackMessage) : List (String × Value) :=
  [("provider", .text m.provider), ("rawPayload", .text m.rawPayload), ("signature", .text m.signature)]

/-- The variables of a callback that `POST webhook/:provider` accepted. -/
def paymentCallback (cfg : Config) (carried : List (String × Value)) : Prop :=
  ∃ provider body signature m, handlePaymentWebhook cfg provider body signature = .ok m ∧ carried = m.variables

/-- A message's variables of the type `String`: Camunda takes nothing else for one. -/
def RefundResultMessage.variables (m : RefundResultMessage) (refundId providerRefundId refundResult : String) :
    List (String × Value) :=
  [("provider", .text m.provider), ("refundId", .text refundId), ("providerRefundId", .text providerRefundId),
    ("refundResult", .text refundResult), ("rawPayload", .text m.rawPayload), ("signature", .text m.signature)]

/-- The variables of a result that `POST refunds/webhook/:provider` accepted. -/
def refundResult (cfg : Config) (carried : List (String × Value)) : Prop :=
  ∃ (w : RefundWebhook) (m : RefundResultMessage) (refundId providerRefundId result : String), w.handle cfg = .ok m ∧
    m.refundId = .str refundId ∧ m.providerRefundId = .str providerRefundId ∧ m.refundResult = .str result ∧
      carried = m.variables refundId providerRefundId result

/-! ## People -/

inductive ReviewDecisionCode
  | approve
  | reject
  | refund
  deriving DecidableEq, Repr

def ReviewDecisionCode.code : ReviewDecisionCode → String
  | .approve => "APPROVE"
  | .reject => "REJECT"
  | .refund => "REFUND"

/-- The manual review is completed with a decision. -/
def reviewForm (out : List (String × Value)) : Prop := ∃ d : ReviewDecisionCode, out = [("reviewDecision", .text d.code)]

inductive AdminDecision
  | approveRefund
  | partialRefund
  | reject
  | exchangeProduct
  deriving DecidableEq, Repr

def AdminDecision.code : AdminDecision → String
  | .approveRefund => "APPROVE_REFUND"
  | .partialRefund => "PARTIAL_REFUND"
  | .reject => "REJECT"
  | .exchangeProduct => "EXCHANGE_PRODUCT"

/-- The fields of the admin's form; `approvedRefundAmount` is a whole number. -/
structure AdminForm where
  decision : AdminDecision
  adminNote : Option String
  approvedRefundAmount : Option ℤ
  deriving DecidableEq, Repr

/-- A field left empty is sent as `null`. -/
def AdminForm.variables (f : AdminForm) : List (String × Value) :=
  [("adminDecision", .text f.decision.code), ("adminNote", .ofOption f.adminNote),
    ("approvedRefundAmount", (f.approvedRefundAmount.map fun n => Value.number (.num n)).getD .null)]

/-! ## The three processes -/

/-- The payment process, with what the others may do between its steps. -/
def paymentSurroundings (cfg : Config) (others : Db → Db → Prop) : Surroundings PaymentNode Topic Value Db where
  serve := serveTask cfg
  attempt := attemptTask cfg
  hears _ _ _ := paymentCallback cfg
  decides _ := reviewForm
  meanwhile := others

def refundSurroundings (cfg : Config) (others : Db → Db → Prop) : Surroundings RefundNode Topic Value Db where
  serve := serveTask cfg
  attempt := attemptTask cfg
  hears _ _ _ := refundResult cfg
  decides _ out := ∃ f : AdminForm, out = f.variables
  meanwhile := others

/-- The reconciliation waits for no message, and its review is completed with anything. -/
def reconciliationSurroundings (cfg : Config) (others : Db → Db → Prop) : Surroundings ReconciliationNode Topic Value Db where
  serve := serveTask cfg
  attempt := attemptTask cfg
  hears _ _ _ _ := False
  decides _ _ := True
  meanwhile := others

/-- What the rest of the platform does: one commit of any service. -/
def othersCommit (cfg : Config) (s s' : Db) : Prop :=
  ∃ c : Commit cfg, c.Faithful (fun _ => True) (fun _ _ _ => True) ∧ c.before = s ∧ c.after = s'

/-- The variables `startPaymentProcessing` begins with. -/
def startPaymentProcessing (orderId userId : String) (amount : JsNumber) (method : String) (idempotencyKey demoFaultTopic : Option String) :
    List (String × Value) :=
  [("orderId", .text orderId), ("userId", .text userId), ("amount", .number amount), ("method", .text method),
    ("idempotencyKey", .text ((nonEmpty idempotencyKey).getD ("checkout_" ++ orderId ++ "_" ++ method)))] ++
    (nonEmpty demoFaultTopic).toList.map fun topic => ("demoFaultTopic", .text topic)

/-- The variables `startRefundWorkflow` begins with. -/
def startRefundWorkflow (paymentId : String) (orderId userId : Option String) (amount : JsNumber) (reason : String)
    (idempotencyKey : Option String) (approvedReturnRequest : Bool) : List (String × Value) :=
  [("paymentId", .text paymentId), ("orderId", .text (orderId.getD "")), ("userId", .text (userId.getD "")),
    ("amount", .number amount), ("reason", .text reason),
    ("idempotencyKey", .text ((nonEmpty idempotencyKey).getD ("refund_" ++ paymentId ++ "_" ++ amount.text))),
    ("approvedReturnRequest", .bool approvedReturnRequest)]

/-- No variable is set yet. -/
def noVars : Vars Value := fun _ => none

end Balii
