import Balii.Payment.Refunds
/-!
# Payment.Notices — the events the refund workflow sends on its own

An exchange is only an event that the order service acts on, and customers are written to by events as well; each is one
`INSERT` outside of any transaction.
-/
namespace Balii

open Rowdb

/-- What `createExchangeRequest` is given. -/
structure ExchangeRequest where
  /-- `EX_`, the time and a random number. -/
  exchangeRequestId : String
  paymentId : Option String
  orderId : Option String
  userId : Option String
  amount : JsNumber
  approvedRefundAmount : Option JsNumber
  reason : Option String
  adminNote : Option String

inductive Notice
  | exchangeRequested (r : ExchangeRequest)
  | exchangeInventorySync (orderId paymentId exchangeRequestId userId : Option String)
  | refundCompleted (refundId : Uuid) (refund : Refund) (payment : Payment)
  | refundRejected (refundId paymentId orderId userId rejectionReason : Option String)
  | exchangeCreated (exchangeRequestId paymentId orderId userId : Option String)

namespace Notice

def aggregateType : Notice → String
  | .exchangeRequested _ => "exchange"
  | .exchangeInventorySync .. => "exchange"
  | .refundCompleted .. => "notification"
  | .refundRejected .. => "notification"
  | .exchangeCreated .. => "notification"

def aggregateId : Notice → Option String
  | .exchangeRequested r => r.orderId.or r.paymentId
  | .exchangeInventorySync orderId _ _ _ => orderId
  | .refundCompleted refundId _ _ => some (Uuid.text refundId)
  | .refundRejected refundId _ _ _ _ => refundId
  | .exchangeCreated exchangeRequestId _ _ _ => exchangeRequestId

def type : Notice → String
  | .exchangeRequested _ => "order.exchange.requested"
  | .exchangeInventorySync .. => "order.exchange.inventory-sync.requested"
  | .refundCompleted .. => "notification.refund.completed"
  | .refundRejected .. => "notification.refund.rejected"
  | .exchangeCreated .. => "notification.exchange.created"

/-- An amount in hundredths as the number of dong. -/
def dong (amount : ℤ) : Json := .ofNumber (.num ((amount : ℚ) / 100))

def payload : Notice → Json
  | .exchangeRequested r => .obj [("exchangeRequestId", .str r.exchangeRequestId), ("paymentId", .ofOption r.paymentId),
      ("orderId", .ofOption r.orderId), ("userId", .ofOption r.userId), ("requestedAmount", .ofNumber r.amount),
      ("approvedRefundAmount", (r.approvedRefundAmount.map Json.ofNumber).getD .null), ("reason", .ofOption r.reason),
      ("adminNote", .ofOption r.adminNote)]
  | .exchangeInventorySync orderId paymentId exchangeRequestId userId => .obj [("orderId", .ofOption orderId),
      ("paymentId", .ofOption paymentId), ("exchangeRequestId", .ofOption exchangeRequestId), ("userId", .ofOption userId)]
  | .refundCompleted refundId refund payment => .obj [("refundId", .str (Uuid.text refundId)),
      ("paymentId", .str (Uuid.text refund.paymentId)), ("orderId", .str (Uuid.text payment.orderId)),
      ("userId", .str (Uuid.text payment.userId)), ("amount", dong refund.amount), ("reason", .str refund.reason),
      ("providerRefundId", .ofOption refund.providerRefundId)]
  | .refundRejected refundId paymentId orderId userId rejectionReason => .obj [("refundId", .ofOption refundId),
      ("paymentId", .ofOption paymentId), ("orderId", .ofOption orderId), ("userId", .ofOption userId),
      ("rejectionReason", .str (rejectionReason.getD "Refund request rejected"))]
  | .exchangeCreated exchangeRequestId paymentId orderId userId => .obj [("exchangeRequestId", .ofOption exchangeRequestId),
      ("paymentId", .ofOption paymentId), ("orderId", .ofOption orderId), ("userId", .ofOption userId)]

def event (n : Notice) (aggregateId : String) (now : Time) : OutboxEvent where
  aggregateType := n.aggregateType
  aggregateId := aggregateId
  type := n.type
  payload := .json n.payload
  status := "PENDING"
  createdAt := now

end Notice

/-- The `INSERT` of a notice. -/
def insertNotice (id : Uuid) (n : Notice) (now : Time) : Trans Unit := do
  let aggregateId ← Tx.need n.aggregateId (notNullViolation "aggregate_id")
  publishEvent id (n.event aggregateId now)

end Balii
