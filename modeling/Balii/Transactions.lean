import Balii.Order.Checkout
import Balii.Order.Returns
import Balii.Payment.Reconciliation
import Balii.Payment.Notices
import Balii.Product.Variants
/-!
# Transactions — every statement and transaction of the services, by name

A transaction is one `dataSource.transaction` of the source, or one statement sent outside of any.
-/
namespace Balii

open Rowdb

/-- What a client sees of an order: its total, its status, the status and the method of its latest payment, and whether a
checkout found it there already. -/
structure OrderView where
  id : Uuid
  orderNumber : String
  totalAmount : ℤ
  status : OrderStatus
  paymentStatus : PaymentStatus
  paymentMethod : PaymentMethod
  idempotentReplay : Bool := false
  deriving DecidableEq, Repr

/-- `mapOrder` of an order joined with its latest payment. -/
def mapOrder (id : Uuid) (o : Order) (s : Db) : OrderView :=
  let payment := (paymentsOf id s).head?.map fun e => e.2
  { id, orderNumber := o.orderCode, totalAmount := o.totalAmount, status := o.status
    paymentStatus := (payment.map fun p => p.status).getD .pending
    paymentMethod := (payment.map fun p => p.method).getD .cod }

def findMyOrderById (userId orderId : Uuid) (s : Db) : Option OrderView :=
  ((s.find Tab.orders orderId).filter fun o => o.userId == userId).map fun o => mapOrder orderId o s

def findAdminOrders (s : Db) : List OrderView :=
  (newestFirst Order.createdAt ((s.rows Tab.orders).select fun _ _ => true)).map fun e => mapOrder e.1 e.2 s

def findOrderByIdempotencyKey (userId idempotencyKey : Uuid) (s : Db) : Option Uuid :=
  ((s.rows Tab.orders).find fun _ o => o.userId == userId && o.checkoutIdempotencyKey == idempotencyKey).map fun e => e.1

/-- The reads the services make outside of transactions. -/
inductive Query
  | order (userId orderId : Uuid)
  | orderByKey (userId idempotencyKey : Uuid)
  | reusablePayment (orderId userId : Uuid) (method : PaymentMethod)
  | payment (paymentId : Uuid)
  | paymentByRef (providerRef : String)
  | paymentByKey (key : PaymentKey)
  | returnRequest (id : Uuid)
  | existedPayment (orderId : Uuid) (key : Option PaymentKey)
  | refundablePayment (orderId userId : Uuid)
  | refundOf (paymentId : Uuid) (amount : ℚ) (key : Option RefundKey)
  | pendingPayment
  | webhook (payloadHash : String)
  | refundBalance (paymentId : Uuid)
  | refundWithPayment (refundId : Uuid)

@[reducible] def Query.Res : Query → Type
  | .order .. => Option OrderView
  | .orderByKey .. => Option Uuid
  | .returnRequest _ => Option ReturnRequest
  | .refundOf .. => Option (Uuid × Refund)
  | .webhook _ => Option Webhook
  | .refundBalance _ => Option (Payment × ℤ)
  | .refundWithPayment _ => Option (Refund × Payment)
  | _ => Option (Uuid × Payment)

def Query.eval : (q : Query) → Db → q.Res
  | .order userId orderId => findMyOrderById userId orderId
  | .orderByKey userId idempotencyKey => findOrderByIdempotencyKey userId idempotencyKey
  | .reusablePayment orderId userId method => findReusableCheckoutPayment orderId userId method
  | .payment paymentId => getPaymentDetail paymentId
  | .paymentByRef providerRef => getPaymentByProviderRef providerRef
  | .paymentByKey key => findPaymentByKey key
  | .returnRequest id => fun s => s.find Tab.returnRequests id
  | .existedPayment orderId key => findExistedPayment orderId key
  | .refundablePayment orderId userId => findRefundablePayment orderId userId
  | .refundOf paymentId amount key => checkRefundIdempotency paymentId amount key
  | .pendingPayment => findPendingPayment
  | .webhook payloadHash => fun s => s.find Tab.webhooks payloadHash
  | .refundBalance paymentId => findRefundBalance paymentId
  | .refundWithPayment refundId => findRefundWithPayment refundId

inductive Op
  | read (q : Query)
  -- order service
  | createOrder (c : Checkout)
  | updatePaymentStatus (orderId : Uuid) (payment : ReportedPayment) (status : Option OrderStatus) (now : Time)
  | updateOrderStatus (orderId : Uuid) (status : OrderStatus) (note : Option String) (now : Time)
  | createReturnRequest (n : NewReturn)
  | reviewReturnRequest (id reviewedBy : Uuid) (decision : ReviewDecision) (note : String)
  | receiveReturnRequest (rc : Receipt)
  | recordDispatch (returnRequestId paymentId : Uuid) (reused : Bool) (now : Time)
  | recordDispatchFailure (returnRequestId : Uuid)
  | updateReturnRefundResult (id : Uuid) (result : RefundOutcome) (now : Time)
  | completeManualReturnRefund (m : ManualRefund)
  -- product service
  | updateVariant (id : Uuid) (dto : UpdateVariant) (actorId : Option Uuid)
  -- payment service
  | createPaymentRow (n : NewPayment)
  | setPaymentUrl (paymentId : Uuid) (paymentUrl : Option String)
  | renewPayment (paymentId : Uuid) (ref : String) (paymentUrl : Option String) (expiresAt : Option Time) (isSimulated : Bool)
  | persistPaymentResult (i : PaymentResultInput)
  | saveInvalidWebhook (rawPayload : String)
  | markReviewRequired (paymentId : Uuid) (reason : String)
  | markExpired (i : ExpiredInput)
  | createRefundRecord (n : NewRefund)
  | rejectRefund (refundId : Uuid) (i : RefundRejection)
  | insertRejectedRefund (i : RefundRejection)
  | requestGatewayRefund (refundId : Uuid) (providerRefundId : String)
  | persistRefundResult (i : RefundResultInput)
  | increaseRefundRetryCount (refundId : Uuid)
  | increaseReconciliationAttempt (paymentId : Uuid)
  | insertNotice (id : Uuid) (n : Notice) (now : Time)

@[reducible] def Op.Res : Op → Type
  | .read q => q.Res
  | .createOrder _ => Uuid
  | .updatePaymentStatus .. => Uuid × Bool
  | .updateOrderStatus .. => Uuid
  | .createReturnRequest _ => Uuid
  | .receiveReturnRequest _ => Option ReturnRefundDispatch
  | .completeManualReturnRefund _ => Bool
  | .persistPaymentResult _ => PersistedPayment
  | .createRefundRecord _ => RefundRecord
  | .persistRefundResult _ => PersistedRefund
  | .increaseRefundRetryCount _ => ℕ
  | .increaseReconciliationAttempt _ => ℤ
  | _ => Unit

def Op.tx (cfg : Config) : (op : Op) → Trans op.Res
  | .read q => query q.eval
  | .createOrder c => createOrderTransaction cfg c
  | .updatePaymentStatus orderId payment status now => updatePaymentStatusTransaction orderId payment status now
  | .updateOrderStatus orderId status note now => updateOrderStatusTransaction orderId status note now
  | .createReturnRequest n => createReturnRequestTransaction cfg n
  | .reviewReturnRequest id reviewedBy decision note => reviewReturnRequestUpdate id reviewedBy decision note
  | .receiveReturnRequest rc => receiveReturnRequestTransaction cfg rc
  | .recordDispatch id paymentId reused now => Balii.recordDispatch id paymentId reused now
  | .recordDispatchFailure id => Balii.recordDispatchFailure id
  | .updateReturnRefundResult id result now => updateReturnRefundResultTransaction id result now
  | .completeManualReturnRefund m => completeManualReturnRefundTransaction m
  | .updateVariant id dto actorId => Balii.updateVariant id dto actorId
  | .createPaymentRow n => Balii.createPaymentRow n
  | .setPaymentUrl paymentId paymentUrl => Balii.setPaymentUrl paymentId paymentUrl
  | .renewPayment paymentId ref paymentUrl expiresAt isSimulated =>
    Balii.renewPayment paymentId ref paymentUrl expiresAt isSimulated
  | .persistPaymentResult i => Balii.persistPaymentResult cfg i
  | .saveInvalidWebhook rawPayload => Balii.saveInvalidWebhook cfg rawPayload
  | .markReviewRequired paymentId reason => Balii.markReviewRequired paymentId reason
  | .markExpired i => Balii.markExpired i
  | .createRefundRecord n => Balii.createRefundRecord n
  | .rejectRefund refundId i => Balii.rejectRefund refundId i
  | .insertRejectedRefund i => Balii.insertRejectedRefund i
  | .requestGatewayRefund refundId providerRefundId => Balii.requestGatewayRefund refundId providerRefundId
  | .persistRefundResult i => Balii.persistRefundResult cfg i
  | .increaseRefundRetryCount refundId => Balii.increaseRefundRetryCount refundId
  | .increaseReconciliationAttempt paymentId => Balii.increaseReconciliationAttempt paymentId
  | .insertNotice id n now => Balii.insertNotice id n now

end Balii
