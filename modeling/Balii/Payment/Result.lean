import Balii.Config
import Balii.Money
import Balii.Order.Status
/-!
# Payment.Result — what becomes of a pending payment

`persistPaymentResultTransaction` is the one writer of a gateway's answer: VNPay's IPN, SePay's webhook, the workflow's
callback, the reconciliation and the simulation all end here.  The timeout of the workflow has a writer of its own.
-/
namespace Balii

open Rowdb

structure PaymentResultInput where
  paymentId : Uuid
  orderId : Uuid
  rawPayload : String
  providerTxnId : Option String
  /-- `'SUCCESS'`, `'FAILED'`, `'UNKNOWN'`, or whatever else came. -/
  paymentResult : String
  outboxEventId : Uuid
  now : Time

structure PersistedPayment where
  paymentFinalStatus : PaymentStatus
  outboxEventId : Option Uuid
  alreadyProcessed : Bool
  orderId : Uuid
  deriving DecidableEq, Repr

/-- The audit row of a callback: one for each payload, and its payment must exist. -/
def saveWebhook (payloadHash : String) (w : Webhook) : Trans Unit := do
  let inserted ← insertIgnore .webhooks payloadHash w
  let paymentExists ← query fun s => decide (∀ id ∈ w.paymentId, (s.find Tab.payments id).isSome)
  Tx.ensure (inserted = true → paymentExists = true) (foreignKeyViolation "payment_webhooks_payment_id_fkey")

def publishEvent (id : Uuid) (e : OutboxEvent) : Trans Unit := insertInto .outbox id e (uniqueViolation "outbox_events_pkey")

namespace PaymentResultInput

def finalStatus (i : PaymentResultInput) : PaymentStatus := if i.paymentResult = "SUCCESS" then .paid else .failed

def webhook (i : PaymentResultInput) : Webhook where
  paymentId := some i.paymentId
  signatureValid := true
  providerTxnId := i.providerTxnId
  eventType := i.paymentResult
  processingStatus := "PROCESSED"
  errorMessage := none

def settle (i : PaymentResultInput) (p : Payment) : Payment :=
  { p with
    status := i.finalStatus
    providerTxnId := i.providerTxnId
    paidAt := if i.finalStatus = .paid then some i.now else p.paidAt
    failureReason :=
      if i.finalStatus = .paid then none else if i.paymentResult = "UNKNOWN" then some "Unknown gateway result" else none }

def event (i : PaymentResultInput) (p : Payment) : OutboxEvent where
  aggregateType := "payment"
  aggregateId := Uuid.text i.paymentId
  type := if i.finalStatus = .paid then "payment.success" else "payment.failed"
  payload := .payment i.paymentId p.orderId p.amount i.providerTxnId (if i.finalStatus = .paid then "paid" else "failed")
  status := "PENDING"
  createdAt := i.now

end PaymentResultInput

/-- The answer to a payment that still waits for one. -/
def settlePayment (i : PaymentResultInput) (order : Order) (payment : Payment) : Trans PersistedPayment := do
  Tx.ensure (¬ (i.finalStatus = .paid ∧ (order.status = .cancelled ∨ order.status = .refunded)))
    (badRequest ("Không thể ghi nhận thanh toán cho đơn hàng " ++ order.status.code ++ "."))
  updateRow .payments i.paymentId i.settle
  publishEvent i.outboxEventId (i.event payment)
  pure { paymentFinalStatus := i.finalStatus, outboxEventId := some i.outboxEventId, alreadyProcessed := false
         orderId := payment.orderId }

/-- The transaction of `persistPaymentResultTransaction`: first the order's lock, then the payment's. -/
def persistPaymentResult (cfg : Config) (i : PaymentResultInput) : Trans PersistedPayment := do
  let order ← fetchJoin .orders i.orderId (fun o => o.status) (notFound "Order not found")
  let payment ← fetchJoin .payments i.paymentId (fun p => p.status) (notFound "Payment not found")
  Tx.ensure (payment.orderId = i.orderId) (badRequest "Payment does not belong to order")
  saveWebhook (cfg.hashPayload i.rawPayload) i.webhook
  if payment.status = .pending then settlePayment i order payment
  else
    pure { paymentFinalStatus := payment.status, outboxEventId := none, alreadyProcessed := true, orderId := payment.orderId }

/-! ## The other writers of a payment -/

/-- The payload `persistReconciledSuccess` and `persistReconciledFailed` record. -/
def reconciledPayload (gatewayResult : String) (providerTxnId : Option String) : String :=
  Json.stringify (.obj [("source", .str "reconciliation"), ("gatewayResult", .str gatewayResult),
    ("providerTxnId", (providerTxnId.map .str).getD .null)])

structure ExpiredInput where
  paymentId : Uuid
  orderId : Uuid
  outboxEventId : Uuid
  now : Time

def Payment.expire (p : Payment) : Payment := { p with status := .failed, failureReason := some "Payment timeout" }

def ExpiredInput.event (i : ExpiredInput) : OutboxEvent where
  aggregateType := "payment"
  aggregateId := Uuid.text i.paymentId
  type := "payment.expired"
  payload := .expired i.paymentId i.orderId "expired"
  status := "PENDING"
  createdAt := i.now

/-- The transaction of `markExpiredTransaction`: the payment is found by its id alone, whatever its status. -/
def markExpired (i : ExpiredInput) : Trans Unit := do
  updateRow .payments i.paymentId Payment.expire
  publishEvent i.outboxEventId i.event

/-- `markReviewRequired` of a known payment. -/
def markReviewRequired (paymentId : Uuid) (reason : String) : Trans Unit :=
  updateRow .payments paymentId fun p => { p with failureReason := some reason }

def saveInvalidWebhook (cfg : Config) (rawPayload : String) : Trans Unit :=
  saveWebhook (cfg.hashPayload rawPayload) {
    paymentId := none, signatureValid := false, providerTxnId := none, eventType := "INVALID_SIGNATURE"
    processingStatus := "FAILED", errorMessage := some "Invalid payment callback signature" }

end Balii
