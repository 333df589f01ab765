import Balii.Config
import Balii.Money
import Balii.Payment.Checkout
import Balii.Payment.Result
/-!
# Payment.Refunds — the refund ledger of a payment

The refund workflow opens a refund (`createRefundRecord`), hears from the provider about it
(`persistRefundResultTransaction`), asks again, or gives up on it (`updateRefundRejected`).  Only the opening of a refund
looks at the payment's balance.
-/
namespace Balii

open Rowdb

/-! ## Reading the ledger -/

/-- The refund a request stands for: the one with its key, or without a key an open one of the same amount. -/
def Refund.answers (paymentId : Uuid) (amount : ℚ) (key : Option RefundKey) (r : Refund) : Bool :=
  r.paymentId == paymentId &&
    match key with
    | some k => r.idempotencyKey == some k
    | none => decide ((r.amount : ℚ) = amount) && (r.status == .pending || r.status == .refunded)

def checkRefundIdempotency (paymentId : Uuid) (amount : ℚ) (key : Option RefundKey) (s : Db) : Option (Uuid × Refund) :=
  (newestFirst Refund.createdAt ((s.rows Tab.refunds).select fun _ r => r.answers paymentId amount key)).head?

/-- `SUM(r.amount)` over the refunds of a payment that are pending or refunded. -/
def reservedRefundAmount (paymentId : Uuid) (s : Db) : ℤ :=
  (s.rows Tab.refunds).total fun _ r =>
    if r.paymentId = paymentId ∧ (r.status = .pending ∨ r.status = .refunded) then r.amount else 0

/-- `SUM(r.amount)` over the refunds of a payment that are refunded. -/
def refundedTotal (paymentId : Uuid) (s : Db) : ℤ :=
  (s.rows Tab.refunds).total fun _ r => if r.paymentId = paymentId ∧ r.status = .refunded then r.amount else 0

/-- A payment and what its refunds reserve of it. -/
def findRefundBalance (paymentId : Uuid) (s : Db) : Option (Payment × ℤ) :=
  (s.find Tab.payments paymentId).map fun p => (p, reservedRefundAmount paymentId s)

/-- A refund with its payment. -/
def findRefundWithPayment (refundId : Uuid) (s : Db) : Option (Refund × Payment) :=
  (s.find Tab.refunds refundId).bind fun r => (s.find Tab.payments r.paymentId).map fun p => (r, p)

/-- The payment `startApprovedReturnRefund` refunds. -/
def findRefundablePayment (orderId userId : Uuid) (s : Db) : Option (Uuid × Payment) :=
  (newestFirst Payment.createdAt ((s.rows Tab.payments).select fun _ p =>
    p.orderId == orderId && p.userId == userId && p.status.refundable)).head?

/-! ## Opening a refund -/

def uniqueProviderRefundId (refundId : Uuid) (ref : String) : Trans Unit :=
  uniqueIn (.providerRefundId ref) .refunds (fun id r => id != refundId && r.providerRefundId == some ref)
    (uniqueViolation "ux_refunds_provider_refund_id")

/-- `INSERT INTO refunds`, with the constraints of the table. -/
def insertRefund (id : Uuid) (r : Refund) : Trans Unit := do
  Tx.ensure (0 < r.amount) (checkViolation "chk_refunds_amount_positive")
  uniqueOption r.idempotencyKey fun k => uniqueIn (.refundKey k) .refunds (fun _ q => q.idempotencyKey == some k)
    (uniqueViolation "ux_refunds_idempotency_key")
  uniqueOption r.providerRefundId fun ref => uniqueProviderRefundId id ref
  let paymentExists ← query fun s => (s.find Tab.payments r.paymentId).isSome
  Tx.ensure (paymentExists = true) (foreignKeyViolation "refunds_payment_id_fkey")
  insertInto .refunds id r (uniqueViolation "refunds_pkey")

structure NewRefund where
  id : Uuid
  /-- `RF_` and a random id. -/
  providerRefundId : String
  paymentId : Uuid
  amount : ℚ
  reason : String
  idempotencyKey : Option RefundKey
  now : Time

def NewRefund.row (n : NewRefund) : Refund where
  paymentId := n.paymentId
  amount := numeric n.amount
  status := .pending
  reason := trim n.reason
  providerRefundId := some n.providerRefundId
  idempotencyKey := n.idempotencyKey
  failureReason := none
  refundedAt := none
  retryCount := 0
  gatewayStatus := some "REQUESTED"
  workflowResolution := none
  adminNote := none
  createdAt := n.now

structure RefundRecord where
  refundId : Uuid
  providerRefundId : Option String
  reused : Bool
  deriving DecidableEq, Repr

/-- A refund nobody has asked for yet: the payment's balance must hold it. -/
def openRefund (n : NewRefund) (payment : Payment) : Trans RefundRecord := do
  Tx.ensure (payment.status.refundable = true) (badRequest "Only paid payments can be refunded")
  let reserved ← query (reservedRefundAmount n.paymentId)
  Tx.ensure ((reserved : ℚ) + n.amount ≤ payment.amount) (badRequest "Refund amount exceeds refundable balance")
  insertRefund n.id n.row
  pure { refundId := n.id, providerRefundId := some n.providerRefundId, reused := false }

/-- The transaction of `createRefundRecord`. -/
def createRefundRecord (n : NewRefund) : Trans RefundRecord := do
  Tx.ensure (0 < n.amount) (badRequest "Invalid refund request")
  Tx.ensure (trim n.reason ≠ "") (badRequest "Missing refund reason")
  let payment ← fetchJoin .payments n.paymentId (fun p => p.status) (notFound "Payment not found")
  let existing ← query (checkRefundIdempotency n.paymentId n.amount n.idempotencyKey)
  match existing with
  | some e => pure { refundId := e.1, providerRefundId := e.2.providerRefundId, reused := true }
  | none => openRefund n payment

/-! ## Giving up on it -/

structure RefundRejection where
  paymentId : Uuid
  amount : ℚ
  reason : String
  refundId : Option Uuid
  idempotencyKey : Option RefundKey
  rejectionReason : Option String
  adminNote : Option String
  /-- The id of the row written when there is no refund yet. -/
  newId : Uuid
  now : Time

def RefundRejection.failureReason (i : RefundRejection) : String :=
  match nonEmpty (i.rejectionReason.map trim) with
  | some r => r
  | none => (nonEmpty (i.adminNote.map trim)).getD "Refund request rejected"

def Refund.reject (i : RefundRejection) (r : Refund) : Refund :=
  { r with
    status := .failed
    failureReason := some i.failureReason
    workflowResolution := some "REJECTED"
    adminNote := i.adminNote }

def RefundRejection.row (i : RefundRejection) : Refund where
  paymentId := i.paymentId
  amount := numeric i.amount
  status := .failed
  reason := i.reason
  providerRefundId := none
  idempotencyKey := i.idempotencyKey
  failureReason := some i.failureReason
  refundedAt := none
  retryCount := 0
  gatewayStatus := none
  workflowResolution := some "REJECTED"
  adminNote := i.adminNote
  createdAt := i.now

/-- The `UPDATE` of `updateRefundRejected`, whatever the refund's status. -/
def rejectRefund (refundId : Uuid) (i : RefundRejection) : Trans Unit := updateRow .refunds refundId (Refund.reject i)

/-- Its `INSERT`, for a request no refund stands for. -/
def insertRejectedRefund (i : RefundRejection) : Trans Unit := insertRefund i.newId i.row

/-! ## Hearing from the provider -/

structure RefundResultInput where
  refundId : Uuid
  paymentId : Uuid
  rawPayload : String
  providerRefundId : Option String
  /-- `'SUCCESS'`, or whatever else came. -/
  refundResult : String
  outboxEventId : Uuid
  now : Time

structure PersistedRefund where
  refundStatus : String
  outboxEventId : Uuid
  fullyRefunded : Bool
  orderId : Uuid
  returnRequestId : Option Uuid
  deriving DecidableEq, Repr

/-- `extractReturnRequestId`. -/
def RefundKey.returnRequestId : RefundKey → Option Uuid
  | .ofReturn id => some id
  | .text _ => none

namespace RefundResultInput

def webhook (i : RefundResultInput) (r : Refund) : Webhook where
  paymentId := some i.paymentId
  signatureValid := true
  providerTxnId := i.providerRefundId.or r.providerRefundId
  eventType := "refund." ++ i.refundResult.toLower
  processingStatus := "PROCESSED"
  errorMessage := none

def succeed (i : RefundResultInput) (r : Refund) : Refund :=
  { r with
    status := .refunded
    providerRefundId := i.providerRefundId.or r.providerRefundId
    refundedAt := some i.now
    failureReason := none
    gatewayStatus := some "SUCCESS" }

def disappoint (i : RefundResultInput) (r : Refund) : Refund :=
  { r with
    status := .failed
    providerRefundId := i.providerRefundId.or r.providerRefundId
    failureReason := some ("Refund result " ++ i.refundResult)
    gatewayStatus := some i.refundResult }

def event (i : RefundResultInput) (type : String) (payload : EventPayload) : OutboxEvent where
  aggregateType := "refund"
  aggregateId := Uuid.text i.refundId
  type := type
  payload := payload
  status := "PENDING"
  createdAt := i.now

end RefundResultInput

/-- The payment's columns after `total` of the `paymentAmount` went back. -/
def Payment.refund (total paymentAmount : ℤ) (p : Payment) : Payment :=
  { p with
    status := if paymentAmount ≤ total then .refunded else .partiallyRefunded
    refundedAmount := min total paymentAmount }

/-- `UPDATE payments SET status_id, refunded_amount`, with `chk_payments_refunded_amount`. -/
def recordRefundedAmount (paymentId : Uuid) (total paymentAmount : ℤ) : Trans Unit := do
  let updated ← updateRowWhere .payments paymentId (fun _ => true) (Payment.refund total paymentAmount)
  Tx.ensure (∀ p ∈ updated, 0 ≤ min total paymentAmount ∧ min total paymentAmount ≤ p.amount)
    (checkViolation "chk_payments_refunded_amount")

/-- The new `provider_refund_id`, when the provider sent one. -/
def checkProviderRefundId (i : RefundResultInput) : Trans Unit :=
  uniqueOption i.providerRefundId fun ref => uniqueProviderRefundId i.refundId ref

/-- The answer `SUCCESS`: the payment is found by the id of the call, its amount by the refund. -/
def refundSucceeded (i : RefundResultInput) (refund : Refund) (payment : Payment) : Trans PersistedRefund := do
  updateRow .refunds i.refundId i.succeed
  checkProviderRefundId i
  let total ← query (refundedTotal i.paymentId)
  recordRefundedAmount i.paymentId total payment.amount
  publishEvent i.outboxEventId (i.event "payment.refund.completed" (.refundCompleted i.refundId i.paymentId payment.orderId
    payment.userId refund.amount (i.providerRefundId.or refund.providerRefundId) (decide (payment.amount ≤ total)) refund.reason))
  pure { refundStatus := "SUCCESS", outboxEventId := i.outboxEventId, fullyRefunded := decide (payment.amount ≤ total)
         orderId := payment.orderId, returnRequestId := refund.idempotencyKey.bind RefundKey.returnRequestId }

/-- Any other answer. -/
def refundFailed (i : RefundResultInput) (refund : Refund) (payment : Payment) : Trans PersistedRefund := do
  updateRow .refunds i.refundId i.disappoint
  checkProviderRefundId i
  publishEvent i.outboxEventId (i.event "payment.refund.failed" (.refundFailed i.refundId i.paymentId payment.orderId
    payment.userId (i.providerRefundId.or refund.providerRefundId) i.refundResult))
  pure { refundStatus := i.refundResult, outboxEventId := i.outboxEventId, fullyRefunded := false
         orderId := payment.orderId, returnRequestId := refund.idempotencyKey.bind RefundKey.returnRequestId }

/-- `SELECT … FROM refunds r JOIN payments p … JOIN payment_statuses ps … FOR UPDATE`: it names no table and locks the row of every
one, and they must still join as they did in its snapshot. -/
def fetchRefund (refundId : Uuid) : Trans (Refund × Payment) := do
  let seen ← query fun s => (findRefundWithPayment refundId s).map fun found => (found.1.paymentId, found.2.status)
  let refund ← fetch .refunds refundId (notFound "Refund not found")
  let payment ← fetch .payments refund.paymentId (notFound "Refund not found")
  Tx.ensure (seen = some (refund.paymentId, payment.status)) (notFound "Refund not found")
  claim (.paymentStatus payment.status)
  pure (refund, payment)

/-- The transaction of `persistRefundResultTransaction`. -/
def persistRefundResult (cfg : Config) (i : RefundResultInput) : Trans PersistedRefund := do
  let found ← fetchRefund i.refundId
  saveWebhook (cfg.hashPayload i.rawPayload) (i.webhook found.1)
  if i.refundResult = "SUCCESS" then refundSucceeded i found.1 found.2 else refundFailed i found.1 found.2

/-! ## Asking again -/

/-- `increaseRefundRetryCount`: the new count. -/
def increaseRefundRetryCount (refundId : Uuid) : Trans ℕ := do
  let updated ← updateRowWhere .refunds refundId (fun _ => true) fun r => { r with retryCount := r.retryCount + 1 }
  let old ← Tx.need updated (notFound "Refund not found")
  pure (old.retryCount + 1)

/-- The `UPDATE` of `callGatewayRefundApi`. -/
def requestGatewayRefund (refundId : Uuid) (providerRefundId : String) : Trans Unit := do
  let updated ← updateRowWhere .refunds refundId (fun _ => true) fun r =>
    { r with providerRefundId := r.providerRefundId.or (some providerRefundId), gatewayStatus := some "REQUESTED" }
  match updated.bind fun r => if r.providerRefundId.isNone then some r else none with
  | none => pure ()
  | some _ => uniqueProviderRefundId refundId providerRefundId

end Balii
