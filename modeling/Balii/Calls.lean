import Balii.Lib.Service
import Balii.Transactions
/-!
# Calls — what the services can be asked, and how they ask each other
-/
namespace Balii

open Rowdb

/-- `CreateOrderDto`, and the ids the new rows get. -/
structure CreateOrder where
  orderId : Uuid
  orderCode : String
  itemId : ℕ ↪ Uuid
  userId : Uuid
  idempotencyKey : Uuid
  voucherCode : Option String
  shippingAddress : ShippingAddress
  now : Time

/-- `CreatePaymentDto`, and what `createPayment` makes up on the way. -/
structure CreatePayment where
  paymentId : Uuid
  /-- A fresh `generatePaymentCode()`. -/
  paymentCode : String
  userId : Uuid
  orderId : Uuid
  method : PaymentMethod
  returnUrl : Option String
  clientIp : Option String
  /-- `formatVnpayDate(new Date())`. -/
  createDate : String
  now : Time

/-- What `generateProviderPaymentUrl` is called with, and what it makes up on the way. -/
structure GenerateProviderPaymentUrl where
  paymentId : Uuid
  method : String
  paymentCode : String
  createDate : String

/-- What the workflow calls `createOrReusePayment` with. -/
structure CreateOrReusePayment where
  paymentId : Uuid
  paymentCode : String
  merchantTxnId : String
  orderId : Uuid
  userId : Uuid
  amount : ℚ
  method : PaymentMethod
  idempotencyKey : Option PaymentKey
  now : Time

inductive Call
  -- order service
  | createOrder (dto : CreateOrder)
  | findMyOrderById (userId orderId : Uuid)
  | updatePaymentStatus (orderId : Uuid) (payment : ReportedPayment) (status : Option OrderStatus) (now : Time)
  | updateOrderStatus (orderId : Uuid) (status : OrderStatus) (note : Option String) (now : Time)
  | createReturnRequest (n : NewReturn)
  | reviewReturnRequest (id reviewedBy : Uuid) (decision : ReviewDecision) (note : String)
  | receiveReturnRequest (rc : Receipt)
  | updateReturnRefundResult (id : Uuid) (result : RefundOutcome) (now : Time)
  | completeManualReturnRefund (m : ManualRefund)
  -- product service
  | updateVariant (id : Uuid) (dto : UpdateVariant) (actorId : Option Uuid)
  -- payment service
  | createPayment (dto : CreatePayment)
  | createOrReusePayment (i : CreateOrReusePayment)
  | generateProviderPaymentUrl (i : GenerateProviderPaymentUrl)
  | handleVnpayIpn (query : VnpayCallbackPayload) (outboxEventId : Uuid) (now : Time)
  | handleSepayWebhook (payload : Json) (authorization : Option String) (outboxEventId : Uuid) (now : Time)
  | persistPaymentResultTransaction (i : PaymentResultInput)
  | completePayment (paymentId : Uuid) (providerTxnId : String) (outboxEventId : Uuid) (now : Time)
  | failPayment (paymentId outboxEventId : Uuid) (now : Time)
  | saveInvalidWebhook (rawPayload : String)
  | markReviewRequired (paymentId : Option Uuid) (reason : String)
  | markExpiredTransaction (i : ExpiredInput)
  | cancelOrReleaseOrder (orderId : Uuid) (now : Time)
  | persistReconciledSuccess (paymentId orderId : Uuid) (providerTxnId : Option String) (outboxEventId : Uuid) (now : Time)
  | persistReconciledFailed (paymentId orderId : Uuid) (gatewayResult : String) (providerTxnId : Option String)
      (outboxEventId : Uuid) (now : Time)
  | startApprovedReturnRefund (dispatch : ReturnRefundDispatch)
  | createRefundRecord (n : NewRefund)
  | updateRefundRejected (i : RefundRejection)
  | callGatewayRefundApi (refundId : Uuid) (providerRefundId : String)
  | persistRefundResultTransaction (i : RefundResultInput)
  | increaseRefundRetryCount (refundId : Uuid)
  | increaseReconciliationAttempt (paymentId : Uuid)
  | createExchangeRequest (r : ExchangeRequest) (outboxEventId : Uuid) (now : Time)
  | updateOrderInventoryForExchange (orderId paymentId exchangeRequestId userId : Option String) (outboxEventId : Uuid)
      (now : Time)
  | notifyCustomerRefundCompleted (refundId outboxEventId : Uuid) (now : Time)
  | notifyCustomerRefundRejected (refundId paymentId orderId userId rejectionReason : Option String) (outboxEventId : Uuid)
      (now : Time)
  | notifyCustomerExchangeCreated (exchangeRequestId paymentId orderId userId : Option String) (outboxEventId : Uuid)
      (now : Time)

/-- `startApprovedReturnRefund`'s answer. -/
structure ReturnRefundStarted where
  paymentId : Uuid
  refundId : Option Uuid
  reused : Bool
  deriving DecidableEq, Repr

inductive Reply
  | done
  | order (o : OrderView)
  | payment (id : Uuid) (p : Payment)
  | paymentId (id : Uuid) (reused : Bool)
  | paymentUrl (url providerRef : Option String)
  | persisted (p : PersistedPayment)
  | ipn (rspCode message : String)
  | sepay (message : Option String)
  | returnRefund (r : ReturnRefundStarted)
  | refundRecord (r : RefundRecord)
  | refund (r : PersistedRefund)
  | retry (count : ℕ) (allowed : Bool)
  | attempt (count : ℤ) (tooMany : Bool)
  | exchange (exchangeRequestId : String)
  deriving DecidableEq, Repr

/-- What is not the services' own to know: the cart of a checkout, and whether Camunda took a process. -/
inductive Answer
  | cart (items : List CheckoutItem) (subtotal : ℚ)
  /-- The cart service's 400 or 409, such as for an empty cart. -/
  | cartRejected (message : Option String)
  | workflowStarted
  | unavailable

abbrev Procedure (α : Type) := Proc Op Op.Res Call Reply Answer Err α

namespace Procedure

def trans (op : Op) : Procedure op.Res := Proc.trans op

def read (q : Query) : Procedure q.Res := trans (.read q)

end Procedure

open Procedure

/-! ## `OrderClientService` and `PaymentClientService` -/

namespace OrderClient

def getOrder (orderId userId : Uuid) : Procedure OrderView :=
  Proc.call (.findMyOrderById userId orderId) fun reply =>
    match reply with
    | .ok (.order o) => .done o
    | .error ⟨.notFound, _⟩ => .fail (notFound "Order not found")
    | _ => .fail (badGateway "Unable to fetch order")

def updateOrderPayment (orderId : Uuid) (payment : ReportedPayment) (status : Option OrderStatus) (now : Time) :
    Procedure Unit :=
  Proc.call (.updatePaymentStatus orderId payment status now) fun reply =>
    match reply with
    | .ok _ => .done ()
    | .error _ => .fail (badGateway "Unable to update order payment status")

def updateReturnRefundResult (returnRequestId : Uuid) (result : RefundOutcome) (now : Time) : Procedure Unit :=
  Proc.call (.updateReturnRefundResult returnRequestId result now) fun reply =>
    match reply with
    | .ok _ => .done ()
    | .error _ => .fail (badGateway "Unable to update return request refund result")

end OrderClient

/-- `startReturnRefund`. -/
def PaymentClient.startReturnRefund (dispatch : ReturnRefundDispatch) : Procedure ReturnRefundStarted :=
  Proc.call (.startApprovedReturnRefund dispatch) fun reply =>
    match reply with
    | .ok (.returnRefund r) => .done r
    | .ok _ => .fail (badGateway "Không thể khởi tạo luồng hoàn tiền.")
    | .error e => .fail (badGateway (if e.message = "" then "Không thể khởi tạo luồng hoàn tiền." else e.message))

end Balii
