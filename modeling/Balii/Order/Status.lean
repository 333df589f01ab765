import Balii.Order.Inventory
/-!
# Order.Status — payment results and status changes of an order

`updatePaymentStatus` is what the payment service reports to; `updateOrderStatus` is the admin's and the customer's
change of status.  Both work under the lock of the order, and cancellation takes the order's pending payments with it.
-/
namespace Balii

open Rowdb

/-- `'unpaid' | 'pending' | 'paid' | 'failed' | 'refunded'`. -/
inductive ReportedPayment
  | unpaid
  | pending
  | paid
  | failed
  | refunded
  deriving DecidableEq, Repr

def ReportedPayment.code : ReportedPayment → String
  | .unpaid => "unpaid"
  | .pending => "pending"
  | .paid => "paid"
  | .failed => "failed"
  | .refunded => "refunded"

/-- The status that a reported payment may take an order to. -/
def ReportedPayment.target : ReportedPayment → Option OrderStatus
  | .paid => some .confirmed
  | .failed => some .cancelled
  | .refunded => some .refunded
  | _ => none

def Payment.cancel (p : Payment) : Payment :=
  { p with status := .cancelled, failureReason := some (p.failureReason.getD "Order cancelled") }

/-- One `UPDATE` over the order's payments: those its snapshot finds pending, each looked at again under its lock. -/
def cancelPendingPaymentsInTransaction (orderId : Uuid) : Trans Unit := do
  let pending ← query fun s => (s.rows Tab.payments).select fun _ p => p.orderId == orderId && p.status == .pending
  Tx.each (fun e => do
    let _ ← updateRowWhere .payments e.1 (fun p => p.orderId == orderId && p.status == .pending) Payment.cancel
    pure ()) pending

/-- Whether money was received for the order, as far as the snapshot shows. -/
def hasSettledPayment (orderId : Uuid) (s : Db) : Bool :=
  ((s.rows Tab.payments).find fun _ p => p.orderId == orderId && p.status.settled).isSome

/-- `UPDATE orders SET status_id …` and its `order_status_logs` row. -/
def setOrderStatus (orderId : Uuid) (fromStatus toStatus : OrderStatus) (note : String) (now : Time) : Trans Unit := do
  updateRow .orders orderId fun o => { o with status := toStatus, updatedAt := now }
  log (.status { orderId, fromStatus, toStatus, note, createdAt := now })

/-! ## `updatePaymentStatus` -/

def paidOrder (orderId : Uuid) (order : Order) (now : Time) : Trans (Option OrderStatus) := do
  Tx.ensure (order.status ≠ .cancelled ∧ order.status ≠ .refunded)
    (conflict ("Không thể thanh toán đơn hàng đang ở trạng thái " ++ order.status.code ++ "."))
  if order.status = .pending then do
    transitionInventoryInTransaction orderId .committed now
    pure (some .confirmed)
  else do
    Tx.ensure (order.inventoryState = .committed)
      (conflict "Đơn hàng không còn giữ tồn kho hợp lệ để xác nhận thanh toán.")
    pure none

def failedOrder (orderId : Uuid) (order : Order) (now : Time) : Trans (Option OrderStatus) :=
  if order.status = .pending then do
    let settled ← query (hasSettledPayment orderId)
    if settled then pure none
    else do
      transitionInventoryInTransaction orderId .released now
      releaseVoucherUsageInTransaction orderId
      cancelPendingPaymentsInTransaction orderId
      pure (some .cancelled)
  else pure none

def refundedOrder (order : Order) : Trans (Option OrderStatus) := do
  Tx.ensure (order.status = .cancelled ∨ order.status = .delivered ∨ order.status = .refunded)
    (conflict ("Không thể hoàn tất hoàn tiền khi đơn hàng đang ở trạng thái " ++ order.status.code ++ "."))
  pure (some .refunded)

/-- The status a reported payment takes the order to, if any, with what has to move along. -/
def nextStatusOf (orderId : Uuid) (order : Order) (payment : ReportedPayment) (now : Time) : Trans (Option OrderStatus) :=
  match payment with
  | .paid => paidOrder orderId order now
  | .failed => failedOrder orderId order now
  | .refunded => refundedOrder order
  | .unpaid => pure none
  | .pending => pure none

def ReturnRequest.complete (now : Time) (r : ReturnRequest) : ReturnRequest :=
  { r with status := .completed, refundStatus := some .completed, completedAt := some (r.completedAt.getD now) }

/-- A request whose provider refund is still under way. -/
def ReturnRequest.awaitsRefund (r : ReturnRequest) : Bool := r.status == .refundPending || r.status == .refundFailed

/-- The order's requests that wait for a refund are closed with it. -/
def completeReturnRequests (orderId : Uuid) (now : Time) : Trans Unit := do
  let waiting ← query fun s => (s.rows Tab.returnRequests).select fun _ r => r.orderId == orderId && r.awaitsRefund
  Tx.each (fun e => do
    let _ ← updateRowWhere .returnRequests e.1 (fun r => r.orderId == orderId && r.awaitsRefund) (ReturnRequest.complete now)
    pure ()) waiting

/-- The move to the next status, when there is one and it is a change: whether the status changed. -/
def applyNextStatus (orderId : Uuid) (order : Order) (payment : ReportedPayment) (next : Option OrderStatus) (now : Time) :
    Trans Bool :=
  match next with
  | none => pure false
  | some status =>
    if status = order.status then pure false
    else do
      setOrderStatus orderId order.status status ("Payment status updated to " ++ payment.code) now
      pure true

/-- The transaction of `updatePaymentStatus`: the order's owner, and whether its status changed. -/
def updatePaymentStatusTransaction (orderId : Uuid) (payment : ReportedPayment) (status : Option OrderStatus) (now : Time) :
    Trans (Uuid × Bool) := do
  let order ← fetchJoin .orders orderId (fun o => o.status) (notFound "Order not found")
  let next ← nextStatusOf orderId order payment now
  Tx.ensure (∀ s ∈ status, ∀ n ∈ next, s = n)
    (badRequest ("Trạng thái đơn " ++ (status.map OrderStatus.code).getD "" ++ " không khớp với trạng thái thanh toán " ++
      payment.code ++ "."))
  let changed ← applyNextStatus orderId order payment next now
  if payment = .refunded then completeReturnRequests orderId now else pure ()
  pure (order.userId, changed)

/-! ## `updateOrderStatus` -/

def allowedTransitions : OrderStatus → List OrderStatus
  | .pending => [.confirmed, .cancelled]
  | .confirmed => [.processing, .cancelled]
  | .processing => [.shipping, .cancelled]
  | .shipping => [.delivered]
  | .delivered => []
  | .cancelled => []
  | .refunded => []

/-- `… WHERE p.order_id = $1 ORDER BY p.created_at DESC`. -/
def paymentsOf (orderId : Uuid) (s : Db) : List (Uuid × Payment) :=
  newestFirst Payment.createdAt ((s.rows Tab.payments).select fun _ p => p.orderId == orderId)

/-- Whether an order with these payments may be confirmed by hand: the latest is cash on delivery, or paid. -/
def confirmable (payments : List (Uuid × Payment)) : Bool :=
  match payments.head? with
  | none => false
  | some e => e.2.method == .cod || e.2.status == .paid

/-- What a change to `status` has to move along. -/
def moveWithStatus (orderId : Uuid) (status : OrderStatus) (payments : List (Uuid × Payment)) (now : Time) : Trans Unit :=
  match status with
  | .confirmed => do
    Tx.ensure (confirmable payments = true)
      (conflict "Chỉ có thể xác nhận đơn COD hoặc đơn thanh toán trực tuyến đã thành công.")
    transitionInventoryInTransaction orderId .committed now
  | .cancelled => do
    Tx.ensure ((payments.any fun e => e.2.status.settled) = false)
      (conflict "Đơn đã thu tiền phải đi qua quy trình hoàn tiền trước khi hủy.")
    transitionInventoryInTransaction orderId .released now
    releaseVoucherUsageInTransaction orderId
    cancelPendingPaymentsInTransaction orderId
  | _ => pure ()

/-- The transaction of `updateOrderStatus`: the order's owner. -/
def updateOrderStatusTransaction (orderId : Uuid) (status : OrderStatus) (note : Option String) (now : Time) : Trans Uuid := do
  let order ← fetchJoin .orders orderId (fun o => o.status) (notFound "Order not found")
  if order.status = status then pure order.userId
  else do
    Tx.ensure (status ∈ allowedTransitions order.status)
      (badRequest ("Không thể chuyển đơn từ " ++ order.status.code ++ " sang " ++ status.code ++ "."))
    let payments ← query (paymentsOf orderId)
    moveWithStatus orderId status payments now
    setOrderStatus orderId order.status status (note.getD ("Status updated to " ++ status.code)) now
    pure order.userId

end Balii
