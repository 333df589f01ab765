import Balii.Payment.RefundChecks
import Balii.Payment.WebhookSecurity
import Balii.Workflow.Processes
/-!
# Workflow.Worker — what the worker does for each topic

A handler reads process variables, calls a service, and completes the task with what the service answered; an error leaves
the task to be tried again.
-/
namespace Balii

open Rowdb Bpmn Procedure

/-! ## Reading variables -/

namespace Value

def truthy : Value → Bool
  | null => false
  | bool b => b
  | text s => s != ""
  | number x => x != .nan && x != .num 0

/-- `Number(value)`. -/
def toNumber : Value → JsNumber
  | null => .num 0
  | bool b => .num (if b then 1 else 0)
  | text s => decimalNumber s
  | number x => x

def ofOption (o : Option String) : Value := (o.map text).getD null

/-- A value as the parameter of a statement. -/
def param : Value → Option String
  | null => none
  | bool b => some (toString b)
  | text s => some s
  | number x => some x.text

def ofJson : Json → Value
  | .bool b => bool b
  | .num n => number (decimalNumber n.text)
  | .str s => text s
  | .null => null
  | .arr items => text (Json.arr items).stringify
  | .obj fields => text (Json.obj fields).stringify

end Value

/-- A variable that holds a text. -/
def textOf (v : Vars Value) (name : String) : Option String :=
  match v name with
  | some (.text s) => some s
  | _ => none

/-- `value != null`. -/
def given (v : Vars Value) (name : String) : Option Value := (v name).filter (· != .null)

/-- `Number(value)`, of nothing `NaN`. -/
def numberOf (value : Option Value) : JsNumber := (value.map Value.toNumber).getD .nan

/-- `Boolean(value)`. -/
def boolOf (v : Vars Value) (name : String) : Bool := (v name).any Value.truthy

/-- `value || null` of a number. -/
def numberOrNull (x : JsNumber) : Value := if (Value.number x).truthy then .number x else .null

def PaymentMethod.ofCode (code : String) : Option PaymentMethod :=
  [cod, bankTransfer, mockOnline, vnpay, momo].find? fun m => m.code == code

/-- A key as the text `checkout:<order>:<method>`, or any other. -/
def PaymentKey.ofText (s : String) : PaymentKey :=
  let rest := s.toList.drop 9
  let method := String.ofList ((rest.dropWhile (· != ':')).drop 1)
  match Uuid.ofText (String.ofList (rest.takeWhile (· != ':'))), PaymentMethod.ofCode method with
  | some orderId, some m => if s = "checkout:" ++ Uuid.text orderId ++ ":" ++ m.code then .checkout orderId m else .text s
  | _, _ => .text s

/-- A key as the text `return:<return request>`, or any other. -/
def RefundKey.ofText (s : String) : RefundKey :=
  match Uuid.ofText (String.ofList (s.toList.drop 7)) with
  | some id => if s = "return:" ++ Uuid.text id then .ofReturn id else .text s
  | none => .text s

/-- What a task makes up on its way: the time, fresh ids and texts, and VNPay's URL. -/
structure TaskEnv where
  now : Time
  newId : Uuid
  outboxEventId : Uuid
  /-- A fresh `generatePaymentCode()`. -/
  paymentCode : String
  /-- `RF_` or `RF_GATEWAY_` and something random. -/
  providerRefundId : String
  exchangeRequestId : String
  /-- `buildVnpayPaymentUrl`. -/
  vnpayUrl : (orderId : Uuid) → (amount : ℤ) → (providerRef : Option String) → Except Err String

/-- A handler: what the task is completed with. -/
abbrev Task := Vars Value → TaskEnv → Procedure (List (String × Value))

def uuidOf (value : Option String) : Procedure Uuid := Proc.need (value.bind Uuid.ofText) (invalidText "uuid")

def hundredthsOf (x : JsNumber) : Procedure ℚ := Proc.need x.hundredths (invalidText "numeric")

/-! ## The payment's tasks -/

/-- `getProviderId` of a method's code. -/
def providerOf (cfg : Config) (method : String) : Procedure PaymentMethod := do
  let m ← Proc.need (PaymentMethod.ofCode method) (notFound ("Payment provider " ++ method ++ " not found"))
  requireProvider cfg m
  pure m

def validatePaymentRequestTask (cfg : Config) : Task := fun v _ => do
  let _ ← requireText (textOf v "orderId") "Missing orderId"
  let _ ← requireText (textOf v "userId") "Missing userId"
  Proc.ensure ((numberOf (v "amount")).isPositive = true) (badRequest "Invalid payment amount")
  let method ← requireText (textOf v "method") "Missing payment method"
  let _ ← providerOf cfg method
  pure []

/-- The newest payment of the order, when its id is a UUID, or with the key. -/
def existedPayment (v : Vars Value) : Procedure (Option (Uuid × Payment)) :=
  let key := (textOf v "idempotencyKey").map PaymentKey.ofText
  match (textOf v "orderId").bind Uuid.ofText, key with
  | some orderId, key => read (.existedPayment orderId key)
  | none, some key => read (.paymentByKey key)
  | none, none => pure none

def checkIdempotencyTask : Task := fun v _ => do
  let existed ← existedPayment v
  pure [("paymentAlreadyExists", .bool existed.isSome), ("paymentId", .ofOption (existed.map fun e => Uuid.text e.1))]

def createPaymentTask (cfg : Config) : Task := fun v env => do
  let method ← providerOf cfg ((textOf v "method").getD "undefined")
  let merchantTxnId := "BALII_" ++ (textOf v "orderId").getD "undefined" ++ "_" ++ toString env.now
  let orderId ← uuidOf (textOf v "orderId")
  let userId ← uuidOf (textOf v "userId")
  let amount ← hundredthsOf (numberOf (v "amount"))
  let _ ← createOrReuseNewPayment cfg
    { paymentId := env.newId, paymentCode := env.paymentCode, merchantTxnId, orderId, userId, amount, method
      idempotencyKey := (textOf v "idempotencyKey").map PaymentKey.ofText, now := env.now }
  pure [("paymentId", .text (Uuid.text env.newId)), ("merchantTxnId", .text merchantTxnId)]

def createOrReusePaymentTask (cfg : Config) : Task := fun v env => do
  let existed ← existedPayment v
  match existed with
  | none => createPaymentTask cfg v env
  | some payment =>
    if payment.2.status = .pending ∨ payment.2.status = .paid then
      pure [("paymentId", .text (Uuid.text payment.1)), ("merchantTxnId", .ofOption payment.2.merchantTxnId)]
    else createPaymentTask cfg v env

/-- The URL by the method: none for cash on delivery, VNPay's own, or the sandbox's. -/
def paymentUrlOf (env : TaskEnv) (method : Option String) (paymentId : String) (payment : Payment) : Except Err (Option String) :=
  if method = some "cod" then .ok none
  else if method = some "vnpay" then (env.vnpayUrl payment.orderId payment.amount payment.providerRef).map some
  else .ok (some ("http://localhost:4000/payments/sandbox-pay/" ++ paymentId))

def generateProviderUrlTask : Task := fun v env => do
  let paymentId ← uuidOf (textOf v "paymentId")
  let payment ← paymentDetail paymentId
  let paymentUrl ← Proc.ofExcept (paymentUrlOf env (textOf v "method") ((textOf v "paymentId").getD "undefined") payment.2)
  trans (.setPaymentUrl paymentId paymentUrl)
  pure [("paymentUrl", .ofOption paymentUrl), ("providerRef", .ofOption payment.2.providerRef)]

def verifySignatureTask (cfg : Config) : Task := fun v env => do
  let verdict ← Proc.ofExcept (verifyGatewaySignature cfg ((textOf v "provider").getD "")
    ((textOf v "rawPayload").getD "") (textOf v "signature") env.now)
  pure [("signatureValid", .bool verdict.signatureValid),
    ("providerTxnId", if verdict.providerTxnId.truthy then .ofJson verdict.providerTxnId else .null),
    ("paymentResult", .text verdict.paymentResult), ("gatewayAmount", (verdict.gatewayAmount.map numberOrNull).getD .null)]

def checkDuplicateCallbackTask (cfg : Config) : Task := fun v _ => do
  let found ← read (.webhook (cfg.hashPayload ((textOf v "rawPayload").getD "")))
  pure [("duplicateCallback", .bool found.isSome)]

/-- An order's id must be the text PostgreSQL prints, for `persistPaymentResultTransaction` compares it with one. -/
def canonicalOrderId (v : Vars Value) : Procedure Uuid := do
  let orderId ← uuidOf (textOf v "orderId")
  Proc.ensure (textOf v "orderId" = some (Uuid.text orderId)) (badRequest "Payment does not belong to order")
  pure orderId

def persistedOut (result : PersistedPayment) : List (String × Value) :=
  [("paymentFinalStatus", .text result.paymentFinalStatus.code), ("outboxEventId", .ofOption (result.outboxEventId.map Uuid.text))]

def persistResultTransactionTask : Task := fun v env => do
  let paymentId ← uuidOf (textOf v "paymentId")
  let orderId ← canonicalOrderId v
  let result ← persistPaymentResultTransaction
    { paymentId, orderId, rawPayload := (textOf v "rawPayload").getD "", providerTxnId := (v "providerTxnId").bind Value.param
      paymentResult := (textOf v "paymentResult").getD "", outboxEventId := env.outboxEventId, now := env.now }
  pure (persistedOut result)

/-- Nothing is written of an order, a payment, a refund or a return: `correlatePaymentSuccessToOrder` writes nothing, and
`signalOutboxPublisher` publishes the pending events and marks them in the outbox, which the model of a publisher has. -/
def idleTask : Task := fun _ _ => pure []

def cancelReleaseTask : Task := fun v env => do
  let orderId ← uuidOf (textOf v "orderId")
  let _ ← cancelOrReleaseOrder orderId env.now
  pure []

def saveInvalidWebhookTask : Task := fun v _ => do
  trans (.saveInvalidWebhook ((textOf v "rawPayload").getD ""))
  pure []

def markReviewRequiredTask : Task := fun v _ => do
  let reason := (nonEmpty (textOf v "reviewReason")).getD "Manual review required"
  match nonEmpty (textOf v "paymentId") with
  | none => pure []
  | some s => do
    let paymentId ← uuidOf (some s)
    let _ ← markReviewRequiredCall (some paymentId) reason
    pure []

def markExpiredTransactionTask : Task := fun v env => do
  let paymentId ← uuidOf (textOf v "paymentId")
  let orderId ← uuidOf (textOf v "orderId")
  let _ ← markExpiredTransaction { paymentId, orderId, outboxEventId := env.outboxEventId, now := env.now }
  pure []

/-! ## The reconciliation's tasks -/

/-- The variables of a payment that waits; a `null` is set too. -/
def pendingOut (found : Option ((Uuid × Payment) × ℤ)) : List (String × Value) :=
  let payment := found.map fun f => f.1
  [("hasPendingPayments", .bool found.isSome), ("paymentId", .ofOption (payment.map fun p => Uuid.text p.1)),
    ("orderId", .ofOption (payment.map fun p => Uuid.text p.2.orderId)),
    ("userId", .ofOption (payment.map fun p => Uuid.text p.2.userId)),
    ("amount", (payment.map fun p => numberOrNull (.num ((p.2.amount : ℚ) / 100))).getD .null),
    ("method", .ofOption (payment.map fun p => p.2.method.code)),
    ("providerRef", .ofOption (nonEmpty (payment.bind fun p => p.2.providerRef))),
    ("providerTxnId", .ofOption (nonEmpty (payment.bind fun p => p.2.providerTxnId))),
    ("reconciliationAttempt", .number (.num ((found.map fun f => (f.2 : ℚ)).getD 0)))]

/-- The attempts counted in a payment's metadata, as `::int` reads them. -/
def attemptsOf (payment : Payment) : Procedure ℤ := Proc.need (reconciliationAttempt payment.metadata) (invalidText "integer")

def findPendingForReconciliationTask : Task := fun _ _ => do
  let found ← read .pendingPayment
  match found with
  | none => pure (pendingOut none)
  | some payment => do
    let attempts ← attemptsOf payment.2
    pure (pendingOut (some (payment, attempts)))

/-- `providerTxnId.startsWith(…)`. -/
def startsWithAny (s : String) (prefixes : List String) : Bool := prefixes.any fun p => p.toList.isPrefixOf s.toList

/-- The result of a payment without one in its metadata. -/
def inferredResult (payment : Payment) (providerTxnId : String) (now : Time) : String :=
  if (payment.expiresAt.any fun t => t < now) = true then "EXPIRED"
  else if startsWithAny providerTxnId ["paid_", "success_"] = true then "SUCCESS"
  else if startsWithAny providerTxnId ["failed_", "cancel_"] = true then "FAILED"
  else "UNKNOWN"

def gatewayStatus (payment : Payment) (providerTxnId : String) (now : Time) : String :=
  match readMetadataString payment.metadata "reconciliationGatewayResult" with
  | some result => result.toUpper
  | none => inferredResult payment providerTxnId now

def queryGatewayStatusTask (cfg : Config) : Task := fun v env => do
  let paymentId ← uuidOf (textOf v "paymentId")
  let found ← read (.payment paymentId)
  let payment ← Proc.need found (notFound "Payment not found")
  let attempts ← attemptsOf payment.2
  let providerTxnId := ((textOf v "providerTxnId").or (payment.2.providerTxnId.or ((textOf v "providerRef").or
    payment.2.providerRef))).getD ("recon_" ++ Uuid.text payment.1)
  pure [("gatewayResult", .text (gatewayStatus payment.2 providerTxnId env.now)), ("providerTxnId", .text providerTxnId),
    ("tooManyAttempts", .bool (decide ((cfg.reconciliationMaxAttempts : ℤ) ≤ attempts)))]

/-- The result of a reconciled payment. -/
def persistReconciledTask (paymentResult gatewayResult : String) : Task := fun v env => do
  let paymentId ← uuidOf (textOf v "paymentId")
  let orderId ← canonicalOrderId v
  let result ← persistPaymentResultTransaction
    { paymentId, orderId, rawPayload := reconciledPayload gatewayResult (textOf v "providerTxnId")
      providerTxnId := textOf v "providerTxnId", paymentResult, outboxEventId := env.outboxEventId, now := env.now }
  pure (persistedOut result)

def persistReconciledSuccessTask : Task := persistReconciledTask "SUCCESS" "SUCCESS"

def persistReconciledFailedTask : Task := fun v env =>
  let gatewayResult := (textOf v "gatewayResult").getD ""
  if gatewayResult = "EXPIRED" then do
    let _ ← markExpiredTransactionTask v env
    pure [("paymentFinalStatus", .text gatewayResult), ("outboxEventId", .text (Uuid.text env.outboxEventId))]
  else persistReconciledTask "FAILED" gatewayResult v env

def increaseReconciliationAttemptTask (cfg : Config) : Task := fun v _ => do
  let paymentId ← uuidOf (textOf v "paymentId")
  let attempt ← trans (.increaseReconciliationAttempt paymentId)
  pure [("reconciliationAttempt", .number (.num attempt)),
    ("tooManyAttempts", .bool (decide ((cfg.reconciliationMaxAttempts : ℤ) ≤ attempt)))]

/-! ## The refund's tasks -/

def validateRefundRequestTask : Task := fun v _ => do
  let context ← validateRefundRequest (textOf v "paymentId") (numberOf (v "amount")) (textOf v "reason")
  pure [("paymentId", .text (Uuid.text context.paymentId)), ("orderId", .text (Uuid.text context.orderId)),
    ("userId", .text (Uuid.text context.userId)), ("method", .text context.method.code), ("amount", .number context.amount),
    ("reason", .text context.reason)]

def conditionOut (c : RefundCondition) : List (String × Value) :=
  [("refundAllowed", .bool c.refundAllowed), ("orderId", .text (Uuid.text c.orderId)), ("userId", .text (Uuid.text c.userId)),
    ("method", .text c.method.code)]

def checkPaymentStatusTask : Task := fun v _ => do
  let c ← Balii.validateRefundCondition (textOf v "paymentId") (numberOf (v "amount")) (textOf v "reason")
  pure (conditionOut c ++ [("paymentStatus", .text c.paymentStatus.code), ("refundValidationReason", .ofOption c.reason),
    ("refundableAmount", .number (.num ((c.refundableAmount : ℚ) / 100)))])

def checkOrderFulfillmentStatusTask : Task := fun v _ => do
  let route ← checkRefundOrderFulfillmentStatus (textOf v "orderId") (textOf v "userId") (textOf v "paymentStatus")
    (boolOf v "refundAllowed") (boolOf v "approvedReturnRequest")
  pure [("refundRoute", .text route.refundRoute.code), ("orderStatus", .ofOption route.orderStatus),
    ("refundRouteReason", .ofOption route.routeReason)]

def validateRefundConditionTask : Task := fun v _ => do
  let c ← Balii.validateRefundCondition (textOf v "paymentId") (numberOf (v "amount")) (textOf v "reason")
  pure (conditionOut c ++ [("refundValidationReason", .ofOption c.reason),
    ("refundableAmount", .number (.num ((c.refundableAmount : ℚ) / 100)))])

/-- What was approved, or else what was asked for. -/
def requestedAmount (v : Vars Value) : JsNumber := numberOf ((given v "approvedRefundAmount").or (v "amount"))

def refundKeyOf (v : Vars Value) : Option RefundKey := (textOf v "idempotencyKey").map RefundKey.ofText

def checkRefundIdempotencyTask : Task := fun v _ => do
  let paymentId ← uuidOf (textOf v "paymentId")
  let amount ← hundredthsOf (requestedAmount v)
  let existing ← read (.refundOf paymentId amount (refundKeyOf v))
  pure [("refundAlreadyExists", .bool existing.isSome), ("refundId", .ofOption (existing.map fun e => Uuid.text e.1)),
    ("providerRefundId", .ofOption (nonEmpty (existing.bind fun e => e.2.providerRefundId))),
    ("effectiveRefundAmount", .number (requestedAmount v))]

/-- What was approved, else what the check before it found, else what was asked for. -/
def recordedAmount (v : Vars Value) : JsNumber :=
  numberOf ((given v "approvedRefundAmount").or ((given v "effectiveRefundAmount").or (v "amount")))

def createRefundRecordTask : Task := fun v env => do
  let paymentId ← uuidOf (textOf v "paymentId")
  let amount ← hundredthsOf (recordedAmount v)
  let record ← trans (.createRefundRecord
    { id := env.newId, providerRefundId := env.providerRefundId, paymentId, amount, reason := (textOf v "reason").getD ""
      idempotencyKey := refundKeyOf v, now := env.now })
  pure [("refundId", .text (Uuid.text record.refundId)), ("providerRefundId", .ofOption (nonEmpty record.providerRefundId)),
    ("effectiveRefundAmount", .number (recordedAmount v))]

/-- `JSON.stringify({ simulated, refundId, paymentId, providerRefundId })`. -/
def simulatedPayload (refundId paymentId : Option String) (providerRefundId : String) : String :=
  (Json.obj [("simulated", .bool true), ("refundId", .ofOption refundId), ("paymentId", .ofOption paymentId),
    ("providerRefundId", .str providerRefundId)]).stringify

def callGatewayApiTask (cfg : Config) : Task := fun v env => do
  let refundId ← uuidOf (textOf v "refundId")
  let providerRefundId := (textOf v "providerRefundId").getD env.providerRefundId
  let _ ← callGatewayRefundApi cfg refundId providerRefundId
  pure [("providerRefundId", .text providerRefundId), ("refundRequestAccepted", .bool true), ("gatewayMode", .text "simulation"),
    ("refundResult", .text "SUCCESS"),
    ("rawPayload", .text (simulatedPayload (textOf v "refundId") (textOf v "paymentId") providerRefundId))]

/-- `refundResult || 'FAILED'`. -/
def refundResultOf (v : Vars Value) : String := (nonEmpty (textOf v "refundResult")).getD "FAILED"

/-- The result of a refund, by the ids the process carries. -/
def refundResultInput (v : Vars Value) (env : TaskEnv) (refundId paymentId : Uuid) : RefundResultInput where
  refundId := refundId
  paymentId := paymentId
  rawPayload := (textOf v "rawPayload").getD ""
  providerRefundId := textOf v "providerRefundId"
  refundResult := refundResultOf v
  outboxEventId := env.outboxEventId
  now := env.now

def refundOut (result : PersistedRefund) : List (String × Value) :=
  [("refundStatus", .text result.refundStatus), ("outboxEventId", .text (Uuid.text result.outboxEventId)),
    ("fullyRefunded", .bool result.fullyRefunded)]

def persistRefundResultTransactionTask : Task := fun v env => do
  let refundId ← uuidOf (textOf v "refundId")
  let paymentId ← uuidOf (textOf v "paymentId")
  let i := refundResultInput v env refundId paymentId
  let result ← trans (.persistRefundResult i)
  reportFullRefund result env.now
  reportReturnRefund result env.now
  pure (refundOut result)

def increaseRetryCountTask (cfg : Config) : Task := fun v _ => do
  let refundId ← uuidOf (textOf v "refundId")
  let retryCount ← trans (.increaseRefundRetryCount refundId)
  pure [("refundRetryCount", .number (.num retryCount)),
    ("refundRetryAllowed", .bool (decide (retryCount < cfg.refundMaxRetryCount)))]

/-- What the process carries of a refund to reject. -/
def rejectionOf (v : Vars Value) (env : TaskEnv) (paymentId : Uuid) (amount : ℚ) (refundId : Option Uuid) : RefundRejection where
  paymentId := paymentId
  amount := amount
  reason := (textOf v "reason").getD ""
  refundId := refundId
  idempotencyKey := refundKeyOf v
  rejectionReason := (nonEmpty (textOf v "refundRouteReason")).or
    ((nonEmpty (textOf v "refundValidationReason")).or (textOf v "adminNote"))
  adminNote := textOf v "adminNote"
  newId := env.newId
  now := env.now

/-- The amount of a refund to reject. -/
def rejectedAmount (v : Vars Value) : JsNumber :=
  numberOf ((given v "effectiveRefundAmount").or ((given v "approvedRefundAmount").or (v "amount")))

/-- The refund a process names, when it names one. -/
def namedRefund (v : Vars Value) : Procedure (Option Uuid) :=
  match nonEmpty (textOf v "refundId") with
  | none => pure none
  | some s => do
    let id ← uuidOf (some s)
    pure (some id)

/-- `updateRefundRejected`: the refund that is rejected now. -/
def rejectRefundRequest (i : RefundRejection) : Procedure Uuid := do
  let refundId ← rejectedRefund i
  match refundId with
  | some id => do
    trans (.rejectRefund id i)
    pure id
  | none => do
    trans (.insertRejectedRefund i)
    pure i.newId

def updateRejectedTask : Task := fun v env => do
  let refundId ← namedRefund v
  let paymentId ← uuidOf (textOf v "paymentId")
  let amount ← hundredthsOf (rejectedAmount v)
  let i := rejectionOf v env paymentId amount refundId
  let rejected ← rejectRefundRequest i
  pure [("refundId", .text (Uuid.text rejected)), ("rejectionReason", .text i.failureReason)]

def exchangeOf (v : Vars Value) (env : TaskEnv) : ExchangeRequest where
  exchangeRequestId := env.exchangeRequestId
  paymentId := textOf v "paymentId"
  orderId := textOf v "orderId"
  userId := textOf v "userId"
  amount := numberOf (v "amount")
  approvedRefundAmount := (given v "approvedRefundAmount").map Value.toNumber
  reason := textOf v "reason"
  adminNote := textOf v "adminNote"

def createExchangeRequestTask : Task := fun v env => do
  let _ ← Balii.createExchangeRequest (exchangeOf v env) env.outboxEventId env.now
  pure [("exchangeRequestId", .text env.exchangeRequestId)]

/-- A task that only writes an event. -/
def noticeTask (n : Vars Value → Notice) : Task := fun v env => do
  let _ ← sendNotice (n v) env.outboxEventId env.now
  pure []

def updateOrderInventoryExchangeTask : Task := noticeTask fun v =>
  .exchangeInventorySync (textOf v "orderId") (textOf v "paymentId") (textOf v "exchangeRequestId") (textOf v "userId")

def refundCompletedTask : Task := fun v env => do
  let refundId ← uuidOf (textOf v "refundId")
  let _ ← notifyCustomerRefundCompleted refundId env.outboxEventId env.now
  pure []

def refundRejectedTask : Task := noticeTask fun v =>
  .refundRejected (textOf v "refundId") (textOf v "paymentId") (textOf v "orderId") (textOf v "userId") (textOf v "rejectionReason")

def exchangeCreatedTask : Task := noticeTask fun v =>
  .exchangeCreated (textOf v "exchangeRequestId") (textOf v "paymentId") (textOf v "orderId") (textOf v "userId")

/-! ## The worker -/

def handler (cfg : Config) : Topic → Task
  | .validatePaymentRequest => validatePaymentRequestTask cfg
  | .checkIdempotency => checkIdempotencyTask
  | .createOrReusePayment => createOrReusePaymentTask cfg
  | .generateProviderUrl => generateProviderUrlTask
  | .verifySignature => verifySignatureTask cfg
  | .checkDuplicateCallback => checkDuplicateCallbackTask cfg
  | .persistResultTransaction => persistResultTransactionTask
  | .signalPublisher => idleTask
  | .correlatePaymentSuccess => idleTask
  | .cancelRelease => cancelReleaseTask
  | .saveInvalidWebhook => saveInvalidWebhookTask
  | .markReviewRequired => markReviewRequiredTask
  | .markExpiredTransaction => markExpiredTransactionTask
  | .findPendingForReconciliation => findPendingForReconciliationTask
  | .queryGatewayStatus => queryGatewayStatusTask cfg
  | .persistReconciledSuccess => persistReconciledSuccessTask
  | .persistReconciledFailed => persistReconciledFailedTask
  | .increaseReconciliationAttempt => increaseReconciliationAttemptTask cfg
  | .validateRefundRequest => validateRefundRequestTask
  | .checkPaymentStatus => checkPaymentStatusTask
  | .checkOrderFulfillmentStatus => checkOrderFulfillmentStatusTask
  | .validateRefundCondition => validateRefundConditionTask
  | .checkRefundIdempotency => checkRefundIdempotencyTask
  | .createRefundRecord => createRefundRecordTask
  | .callGatewayApi => callGatewayApiTask cfg
  | .persistRefundResultTransaction => persistRefundResultTransactionTask
  | .increaseRetryCount => increaseRetryCountTask cfg
  | .updateRejected => updateRejectedTask
  | .createExchangeRequest => createExchangeRequestTask
  | .updateOrderInventoryExchange => updateOrderInventoryExchangeTask
  | .refundCompleted => refundCompletedTask
  | .refundRejected => refundRejectedTask
  | .exchangeCreated => exchangeCreatedTask

/-- `guardedSubscribe` fails the task of this topic. -/
def isFaulty (v : Vars Value) (topic : Topic) : Bool := (v "demoFaultTopic").any fun value => value.truthy && value.param == some topic.name

end Balii
