import Balii.Payment.Webhooks
/-!
# Payment.Service — the other procedures of the payment service

What checkout and the payment and refund workflows call; the workflow engine itself may call any of them at any time.
-/
namespace Balii

open Rowdb Procedure

/-! ## Creating a payment -/

/-- `getPaymentDetail`. -/
def paymentDetail (paymentId : Uuid) : Procedure (Uuid × Payment) := do
  let found ← read (.payment paymentId)
  Proc.need found (notFound "Payment not found")

def replyWithPayment (paymentId : Uuid) : Procedure Reply := do
  let payment ← paymentDetail paymentId
  pure (.payment payment.1 payment.2)

/-- What `createPayment` asks VNPay's page for. -/
def CreatePayment.vnpay (dto : CreatePayment) (amount : ℤ) (providerRef : Option String) : VnpayPayment where
  orderId := dto.orderId.text
  amount := toString amount
  providerRef := providerRef
  clientIp := dto.clientIp
  paymentCode := dto.paymentCode
  createDate := dto.createDate

/-- Where the customer pays. -/
def CreatePayment.paymentUrl (cfg : Config) (dto : CreatePayment) (amount : ℤ) (ref : Option String) :
    Except Err (Option String) :=
  match dto.method with
  | .vnpay => (buildVnpayPaymentUrl cfg (dto.vnpay amount ref)).map some
  | .cod => .ok none
  | _ => .ok dto.returnUrl

/-- A payment that still waits: its URL is made up for if it is missing. -/
def reusePayment (cfg : Config) (dto : CreatePayment) (payment : Uuid × Payment) : Procedure Reply :=
  if dto.method = .vnpay ∧ nonEmpty payment.2.paymentUrl = none then do
    let paymentUrl ← Proc.ofExcept (buildVnpayPaymentUrl cfg (dto.vnpay payment.2.amount payment.2.providerRef))
    trans (.setPaymentUrl payment.1 (some paymentUrl))
    replyWithPayment payment.1
  else replyWithPayment payment.1

def renewExpiredPayment (cfg : Config) (dto : CreatePayment) (totalAmount : ℤ) (paymentId : Uuid) : Procedure Reply := do
  let ref := createProviderReference cfg dto.paymentCode
  let paymentUrl ← Proc.ofExcept (dto.paymentUrl cfg totalAmount (some ref))
  trans (.renewPayment paymentId ref paymentUrl (checkoutExpiry dto.method dto.now) cfg.isPaymentSimulationEnabled)
  replyWithPayment paymentId

/-- The `INSERT`; of two calls with one key, the later takes the earlier's payment. -/
def insertOrFindPayment (n : NewPayment) (key : PaymentKey) : Procedure Uuid :=
  Proc.exec (Op.createPaymentRow n) fun result =>
    match result with
    | .ok _ => .done n.id
    | .error e =>
      if e.kind = .uniqueViolation then do
        let found ← read (.paymentByKey key)
        let payment ← Proc.need found e
        pure payment.1
      else .fail e

def requireProvider (cfg : Config) (method : PaymentMethod) : Procedure Unit :=
  Proc.ensure (cfg.providerActive method = true) (notFound ("Payment provider " ++ method.code ++ " not found"))

def newCheckoutPayment (cfg : Config) (dto : CreatePayment) (totalAmount : ℤ) : Procedure Reply := do
  requireProvider cfg dto.method
  let ref := createProviderReference cfg dto.paymentCode
  let paymentUrl ← Proc.ofExcept (dto.paymentUrl cfg totalAmount (some ref))
  let paymentId ← insertOrFindPayment
    { id := dto.paymentId, orderId := dto.orderId, userId := dto.userId, method := dto.method, amount := totalAmount
      providerRef := ref, merchantTxnId := none, paymentUrl, expiresAt := checkoutExpiry dto.method dto.now
      idempotencyKey := some (.checkout dto.orderId dto.method), metadata := .obj []
      isSimulated := cfg.isPaymentSimulationEnabled, now := dto.now } (.checkout dto.orderId dto.method)
  OrderClient.updateOrderPayment dto.orderId .pending none dto.now
  replyWithPayment paymentId

def createPayment (cfg : Config) (dto : CreatePayment) : Procedure Reply := do
  let order ← OrderClient.getOrder dto.orderId dto.userId
  Proc.ensure (order.paymentStatus ≠ .paid) (badRequest "Order has already been paid")
  Proc.ensure (order.status = .pending)
    (badRequest ("Không thể tạo thanh toán cho đơn hàng đang ở trạng thái " ++ order.status.code ++ "."))
  let reusable ← read (.reusablePayment dto.orderId dto.userId dto.method)
  match reusable with
  | none => newCheckoutPayment cfg dto order.totalAmount
  | some payment =>
    if payment.2.status = .paid then Proc.fail (badRequest "Order has already been paid")
    else if payment.2.isExpired dto.now = true then renewExpiredPayment cfg dto order.totalAmount payment.1
    else reusePayment cfg dto payment

def createOrReuseNewPayment (cfg : Config) (i : CreateOrReusePayment) : Procedure Reply := do
  requireProvider cfg i.method
  trans (.createPaymentRow {
    id := i.paymentId, orderId := i.orderId, userId := i.userId, method := i.method, amount := i.amount
    providerRef := createProviderReference cfg i.paymentCode, merchantTxnId := some i.merchantTxnId, paymentUrl := none
    expiresAt := some (i.now + 15 * 60 * 1000), idempotencyKey := i.idempotencyKey
    metadata := .obj [("method", .str i.method.code), ("source", .str "camunda-payment-workflow")]
    isSimulated := cfg.isPaymentSimulationEnabled, now := i.now })
  OrderClient.updateOrderPayment i.orderId .pending none i.now
  pure (.paymentId i.paymentId false)

def createOrReusePayment (cfg : Config) (i : CreateOrReusePayment) : Procedure Reply := do
  let existed ← read (.existedPayment i.orderId i.idempotencyKey)
  match existed with
  | none => createOrReuseNewPayment cfg i
  | some payment =>
    if payment.2.status = .pending ∨ payment.2.status = .paid then pure (.paymentId payment.1 true)
    else createOrReuseNewPayment cfg i

/-- The URL by the method: none for cash on delivery, VNPay's page, or the sandbox's. -/
def GenerateProviderPaymentUrl.paymentUrl (cfg : Config) (i : GenerateProviderPaymentUrl) (payment : Payment) :
    Except Err (Option String) :=
  if i.method = "cod" then .ok none
  else if i.method = "vnpay" then
    (buildVnpayPaymentUrl cfg {
      orderId := payment.orderId.text, amount := toString payment.amount, providerRef := payment.providerRef
      clientIp := none
      paymentCode := i.paymentCode, createDate := i.createDate }).map some
  else .ok (some (sandboxUrl i.paymentId))

def generateProviderPaymentUrl (cfg : Config) (i : GenerateProviderPaymentUrl) : Procedure Reply := do
  let payment ← paymentDetail i.paymentId
  let paymentUrl ← Proc.ofExcept (i.paymentUrl cfg payment.2)
  trans (.setPaymentUrl i.paymentId paymentUrl)
  pure (.paymentUrl paymentUrl payment.2.providerRef)

/-! ## Results that come from elsewhere -/

def requireSimulation (cfg : Config) : Procedure Unit :=
  Proc.ensure (cfg.isPaymentSimulationEnabled = true)
    (badRequest "Endpoint giả lập thanh toán đã bị tắt trên môi trường này.")

/-- `JSON.stringify({ source, paymentId })`. -/
def simulationPayload (source : String) (paymentId : Uuid) : String :=
  Json.stringify (.obj [("source", .str source), ("paymentId", .str (toString paymentId))])

/-- A result made up for a payment that does not have it yet. -/
def simulate (cfg : Config) (paymentId : Uuid) (status : PaymentStatus) (i : Payment → PaymentResultInput) :
    Procedure Reply := do
  requireSimulation cfg
  let payment ← paymentDetail paymentId
  if payment.2.status = status then pure (.payment payment.1 payment.2)
  else do
    let _ ← persistPaymentResultTransaction (i payment.2)
    replyWithPayment paymentId

def completePayment (cfg : Config) (paymentId : Uuid) (providerTxnId : String) (outboxEventId : Uuid) (now : Time) :
    Procedure Reply :=
  simulate cfg paymentId .paid fun p =>
    { paymentId, orderId := p.orderId, rawPayload := simulationPayload "production-simulation" paymentId
      providerTxnId := some providerTxnId, paymentResult := "SUCCESS", outboxEventId, now }

def failPayment (cfg : Config) (paymentId outboxEventId : Uuid) (now : Time) : Procedure Reply :=
  simulate cfg paymentId .failed fun p =>
    { paymentId, orderId := p.orderId, rawPayload := simulationPayload "admin-simulation" paymentId
      providerTxnId := none, paymentResult := "FAILED", outboxEventId, now }

def markReviewRequiredCall (paymentId : Option Uuid) (reason : String) : Procedure Reply :=
  match paymentId with
  | none => pure .done
  | some id => do
    trans (.markReviewRequired id reason)
    pure .done

def cancelOrReleaseOrder (orderId : Uuid) (now : Time) : Procedure Reply := do
  OrderClient.updateOrderPayment orderId .failed (some .cancelled) now
  pure .done

def markExpiredTransaction (i : ExpiredInput) : Procedure Reply := do
  trans (.markExpired i)
  OrderClient.updateOrderPayment i.orderId .failed (some .cancelled) i.now
  pure .done

/-- `persistReconciledSuccess`, and `persistReconciledFailed` of a payment that has not expired. -/
def persistReconciled (paymentId orderId : Uuid) (paymentResult gatewayResult : String) (providerTxnId : Option String)
    (outboxEventId : Uuid) (now : Time) : Procedure Reply := do
  let result ← persistPaymentResultTransaction
    { paymentId, orderId, rawPayload := reconciledPayload gatewayResult providerTxnId, providerTxnId
      paymentResult := paymentResult, outboxEventId, now }
  pure (.persisted result)

def persistReconciledFailed (paymentId orderId : Uuid) (gatewayResult : String) (providerTxnId : Option String)
    (outboxEventId : Uuid) (now : Time) : Procedure Reply :=
  if gatewayResult = "EXPIRED" then markExpiredTransaction { paymentId, orderId, outboxEventId, now }
  else persistReconciled paymentId orderId "FAILED" gatewayResult providerTxnId outboxEventId now

/-! ## Refunds -/

/-- The process of a return's refund, started unless a refund stands for the return already. -/
def startReturnWorkflow (paymentId : Uuid) (existing : Option (Uuid × Refund)) : Procedure Reply :=
  match existing with
  | some e => pure (.returnRefund { paymentId, refundId := some e.1, reused := true })
  | none => do
    let started ← Proc.answer
    match started with
    | .workflowStarted => pure (.returnRefund { paymentId, refundId := none, reused := false })
    | _ => Proc.fail (badGateway "Unable to start refund workflow")

def startApprovedReturnRefund (d : ReturnRefundDispatch) : Procedure Reply := do
  let found ← read (.refundablePayment d.orderId d.userId)
  let payment ← Proc.need found (badRequest "Không tìm thấy giao dịch đã thanh toán để hoàn tiền.")
  Proc.ensure (0 < d.amount ∧ d.amount ≤ payment.2.amount)
    (badRequest "Số tiền hoàn không hợp lệ hoặc vượt quá giao dịch đã thanh toán.")
  let existing ← read (.refundOf payment.1 d.amount (some (.ofReturn d.returnRequestId)))
  startReturnWorkflow payment.1 existing

def createRefundRecordCall (n : NewRefund) : Procedure Reply := do
  let record ← trans (.createRefundRecord n)
  pure (.refundRecord record)

/-- The refund to reject: the one named, or the one the request stands for. -/
def rejectedRefund (i : RefundRejection) : Procedure (Option Uuid) :=
  match i.refundId with
  | some id => pure (some id)
  | none => do
    let existing ← read (.refundOf i.paymentId i.amount i.idempotencyKey)
    pure (existing.map fun e => e.1)

def updateRefundRejected (i : RefundRejection) : Procedure Reply := do
  let refundId ← rejectedRefund i
  match refundId with
  | some id => do
    trans (.rejectRefund id i)
    pure .done
  | none => do
    trans (.insertRejectedRefund i)
    pure .done

def callGatewayRefundApi (cfg : Config) (refundId : Uuid) (providerRefundId : String) : Procedure Reply := do
  Proc.ensure (cfg.isRefundSimulationEnabled = true)
    (badRequest ("Adapter hoàn tiền nhà cung cấp chưa được cấu hình. Hãy xử lý hoàn tiền thủ công và chỉ xác nhận " ++
      "sau khi khách đã nhận tiền."))
  trans (.requestGatewayRefund refundId providerRefundId)
  pure .done

/-- The return request a refund pays for hears of the result. -/
def reportReturnRefund (result : PersistedRefund) (now : Time) : Procedure Unit :=
  match result.returnRequestId with
  | none => pure ()
  | some id =>
    OrderClient.updateReturnRefundResult id (if result.refundStatus = "SUCCESS" then .completed else .failed) now

def reportFullRefund (result : PersistedRefund) (now : Time) : Procedure Unit :=
  if result.fullyRefunded = true then OrderClient.updateOrderPayment result.orderId .refunded (some .refunded) now
  else pure ()

def persistRefundResultTransaction (i : RefundResultInput) : Procedure Reply := do
  let result ← trans (.persistRefundResult i)
  reportFullRefund result i.now
  reportReturnRefund result i.now
  pure (.refund result)

def increaseRefundRetryCountCall (cfg : Config) (refundId : Uuid) : Procedure Reply := do
  let retryCount ← trans (.increaseRefundRetryCount refundId)
  pure (.retry retryCount (decide (retryCount < cfg.refundMaxRetryCount)))

def createExchangeRequest (r : ExchangeRequest) (outboxEventId : Uuid) (now : Time) : Procedure Reply := do
  trans (.insertNotice outboxEventId (.exchangeRequested r) now)
  pure (.exchange r.exchangeRequestId)

/-- `updateOrderInventoryForExchange`, `notifyCustomerRefundRejected` and `notifyCustomerExchangeCreated`. -/
def sendNotice (n : Notice) (outboxEventId : Uuid) (now : Time) : Procedure Reply := do
  trans (.insertNotice outboxEventId n now)
  pure .done

def notifyCustomerRefundCompleted (refundId outboxEventId : Uuid) (now : Time) : Procedure Reply := do
  let found ← read (.refundWithPayment refundId)
  let refund ← Proc.need found (notFound "Refund not found")
  sendNotice (.refundCompleted refundId refund.1 refund.2) outboxEventId now

/-! ## Reconciliation -/

def increaseReconciliationAttemptCall (cfg : Config) (paymentId : Uuid) : Procedure Reply := do
  let attempt ← trans (.increaseReconciliationAttempt paymentId)
  pure (.attempt attempt (decide ((cfg.reconciliationMaxAttempts : ℤ) ≤ attempt)))

end Balii
