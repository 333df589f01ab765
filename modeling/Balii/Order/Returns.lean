import Balii.Config
import Balii.Money
import Balii.Order.Status
/-!
# Order.Returns — return requests, from the customer's form to the money back

A request is approved or rejected, received with a disposition for each item, and then paid out: through the provider's
refund workflow, which the payment service runs and reports back from, or by hand.
-/
namespace Balii

open Rowdb

/-! ## Creating a request -/

/-- How many of an order item a request takes: none once rejected, what was accepted once received. -/
def ReturnRequest.takes (r : ReturnRequest) (orderItemId : Uuid) : ℤ :=
  ((r.items.filter fun i => i.orderItemId == orderItemId).map fun i =>
    match r.status with
    | .rejected => 0
    | .pending => i.requestedQuantity
    | .approved => i.requestedQuantity
    | _ => i.acceptedQuantity.getD i.requestedQuantity).sum

def previousQuantity (orderItemId : Uuid) (s : Db) : ℤ :=
  (s.rows Tab.returnRequests).total fun _ r => r.takes orderItemId

/-- `MAX(order_status_logs.created_at)` of the order's delivery. -/
def deliveredAt (orderId : Uuid) (s : Db) : Option Time :=
  (s.log.filterMap fun l => match l with
    | .status l => if l.orderId = orderId ∧ l.toStatus = .delivered then some l.createdAt else none
    | .movement _ => none).max?

structure NewReturn where
  id : Uuid
  itemId : ℕ ↪ Uuid
  orderId : Uuid
  userId : Uuid
  reason : String
  /-- The parsed `items`: which order items, and how many of each. -/
  selected : List (Uuid × ℤ)
  now : Time

/-- `parseReturnItems`, after `JSON.parse`. -/
def parseReturnItems (items : List (Uuid × ℤ)) : Except Err (List (Uuid × ℤ)) :=
  if items = [] ∨ 100 < items.length then .error (badRequest "Vui lòng chọn ít nhất một sản phẩm cần trả.")
  else if ∃ i ∈ items, i.2 ≤ 0 then .error (badRequest "Mã sản phẩm hoặc số lượng trả không hợp lệ.")
  else if ¬ (items.map fun i => i.1).Nodup then .error (badRequest "Sản phẩm trả bị trùng lặp.")
  else .ok items

def selectedQuantity (selected : List (Uuid × ℤ)) (orderItemId : Uuid) : ℤ :=
  ((selected.find? fun i => i.1 == orderItemId).map fun i => i.2).getD 0

/-- A gift combo comes back whole: all that is left of each of its items, or none of it. -/
def returnsWholeCampaign (items : List OrderItem) (available : OrderItem → ℤ) (selected : List (Uuid × ℤ)) (campaignId : Uuid) :
    Bool :=
  (items.filter fun i => i.campaignId == some campaignId).all fun i => selectedQuantity selected i.id == available i

def giftCampaignIds (items : List OrderItem) : List Uuid :=
  ((items.filter fun i => i.campaignDiscountType == some "GIFT").filterMap fun i => i.campaignId).dedup

def NewReturn.row (n : NewReturn) (order : Order) : ReturnRequest :=
  let chosen := order.items.filter fun i => n.selected.any fun e => e.1 == i.id
  let gross := (chosen.map fun i => i.unitPrice * selectedQuantity n.selected i.id).sum
  { orderId := n.orderId, userId := n.userId, status := .pending, reason := trim n.reason
    adminNote := none, reviewedBy := none, receivedBy := none, receivedAt := none, restockedAt := none, refundMode := none
    refundStatus := none, refundPaymentId := none, refundWorkflowStartedAt := none, completedAt := none
    requestedRefundAmount := calculateReturnRefund gross order.subtotal order.discountAmount
    approvedRefundAmount := none, manualRefundAmount := none, manualRefundReference := none, manualRefundNote := none
    manualRefundEvidenceUrls := [], manualRefundCompletedBy := none
    items := chosen.zipIdx.map fun e =>
      { id := n.itemId e.2, orderItemId := e.1.id, requestedQuantity := selectedQuantity n.selected e.1.id
        acceptedQuantity := none, disposition := none, unitPrice := e.1.unitPrice
        grossAmount := e.1.unitPrice * selectedQuantity n.selected e.1.id, refundAmount := 0 } }

/-- Whether a request holds the index entry `ux_return_requests_active_order`. -/
def ReturnStatus.active (s : ReturnStatus) : Bool := s != .rejected && s != .completed

def createReturnRequestTransaction (cfg : Config) (n : NewReturn) : Trans Uuid := do
  let delivered ← query (deliveredAt n.orderId)
  let notReturnable := badRequest ("Chỉ có thể yêu cầu trả hàng trong " ++ toString cfg.getReturnWindowDays ++
    " ngày sau khi giao thành công.")
  let order ← fetchJoin .orders n.orderId (fun o => o.status) notReturnable
  Tx.ensure (order.userId = n.userId ∧ order.status = .delivered ∧
    (n.now : ℤ) - cfg.getReturnWindowDays * 86400000 ≤ (delivered.getD order.updatedAt : ℤ)) notReturnable
  let active ← query fun s => (s.rows Tab.returnRequests).find fun _ r => r.orderId == n.orderId && r.status.active
  Tx.ensure (active.isNone = true) (badRequest "Đơn hàng này đang có yêu cầu trả hàng đang xử lý.")
  Tx.ensure (cfg.columns.orderItemsCreatedAt = true) (undefinedColumn "oi.created_at")
  let previous ← query fun s => fun itemId => previousQuantity itemId s
  Tx.ensure (∀ e ∈ n.selected, ∃ i ∈ order.items, i.id = e.1) (badRequest "Danh sách sản phẩm trả không thuộc đơn hàng này.")
  Tx.ensure (∀ i ∈ order.items, selectedQuantity n.selected i.id ≤ i.quantity - previous i.id)
    (badRequest "Số lượng trả vượt quá số lượng còn có thể trả.")
  Tx.ensure (∀ campaignId ∈ giftCampaignIds order.items,
      returnsWholeCampaign order.items (fun i => i.quantity - previous i.id) n.selected campaignId = true)
    (badRequest ("Phải trả toàn bộ sản phẩm còn lại thuộc combo quà tặng đã chọn; " ++
      "các sản phẩm ngoài combo không bị ảnh hưởng."))
  Tx.ensure (∀ i ∈ (n.row order).items, 0 < i.requestedQuantity ∧ 0 ≤ i.grossAmount)
    (checkViolation "return_request_items_check")
  uniqueIn (.activeReturn n.orderId) .returnRequests (fun _ r => r.orderId == n.orderId && r.status.active)
    (uniqueViolation "ux_return_requests_active_order")
  insertInto .returnRequests n.id (n.row order) (uniqueViolation "return_requests_pkey")
  pure n.id

/-! ## Reviewing it -/

inductive ReviewDecision
  | approved
  | rejected
  deriving DecidableEq, Repr

def ReviewDecision.status : ReviewDecision → ReturnStatus
  | .approved => .approved
  | .rejected => .rejected

def approvedReturnMessage : String :=
  "Yêu cầu trả hàng đã được chấp thuận. Đơn vị vận chuyển sẽ liên hệ và đến nhận sản phẩm trong thời gian sớm nhất. " ++
    "Vui lòng giữ điện thoại bên mình và đóng gói sản phẩm cẩn thận."

def customerMessage (decision : ReviewDecision) (note : String) : String :=
  match decision with
  | .approved => if note = "" then approvedReturnMessage else note
  | .rejected => note

/-- The `UPDATE … WHERE id = $4 AND status = 'pending'` of `reviewReturnRequest`. -/
def reviewReturnRequestUpdate (id reviewedBy : Uuid) (decision : ReviewDecision) (note : String) : Trans Unit := do
  let updated ← updateRowWhere .returnRequests id (fun r => r.status == .pending) fun r =>
    { r with status := decision.status, adminNote := some (customerMessage decision note), reviewedBy := some reviewedBy }
  Tx.ensure (updated.isSome = true) (notFound "Return request not found")

/-! ## Receiving the goods -/

structure Receipt where
  returnRequestId : Uuid
  receivedBy : Uuid
  items : List (Uuid × Disposition)
  now : Time

/-- What `receiveReturnRequest` sends to the payment service. -/
structure ReturnRefundDispatch where
  returnRequestId : Uuid
  orderId : Uuid
  userId : Uuid
  amount : ℤ
  reason : String
  deriving DecidableEq, Repr

def Receipt.disposition (rc : Receipt) (itemId : Uuid) : Option Disposition :=
  (rc.items.find? fun e => e.1 == itemId).map fun e => e.2

/-- Each returned item is classified exactly once. -/
def Receipt.classifies (rc : Receipt) (items : List ReturnItem) : Bool :=
  decide (rc.items.map fun e => e.1).Nodup && rc.items.length == items.length &&
    items.all fun i => (rc.disposition i.id).isSome

def Receipt.accepted (rc : Receipt) (items : List ReturnItem) : List ReturnItem :=
  items.filter fun i => rc.disposition i.id != some .rejected

/-- The approved amounts of the order's other finished requests. -/
def approvedTotal (orderId : Uuid) (except : Option Uuid) (s : Db) : ℤ :=
  (s.rows Tab.returnRequests).total fun id r =>
    if r.orderId = orderId ∧ except ≠ some id ∧ r.status = .completed ∧
      (r.refundStatus = some .completed ∨ r.refundStatus = some .manualCompleted)
    then r.approvedRefundAmount.getD 0 else 0

def Receipt.approvedRefundAmount (rc : Receipt) (order : Order) (items : List ReturnItem) (prior : ℤ) : ℤ :=
  let acceptedGross := ((rc.accepted items).map fun i => i.grossAmount).sum
  min (calculateReturnRefund acceptedGross order.subtotal order.discountAmount) (max (merchandiseTotal order - prior) 0)

/-- A returned item with what was decided about it. -/
def Receipt.classify (rc : Receipt) (refunds : List (Uuid × ℤ)) (i : ReturnItem) : ReturnItem :=
  match rc.disposition i.id with
  | none => i
  | some .rejected => { i with acceptedQuantity := some 0, disposition := some .rejected, refundAmount := 0 }
  | some d =>
    { i with
      acceptedQuantity := some i.requestedQuantity
      disposition := some d
      refundAmount := ((refunds.find? fun e => e.1 == i.id).map fun e => e.2).getD 0 }

/-- One turn of the loop over the returned items: its row, and its stock when it goes back on the shelf. -/
def receiveItem (rc : Receipt) (order : Order) (refunds : List (Uuid × ℤ)) (item : ReturnItem) : Trans Unit := do
  updateRow .returnRequests rc.returnRequestId fun r =>
    { r with items := r.items.map fun i => if i.id = item.id then rc.classify refunds i else i }
  if rc.disposition item.id = some .restock then
    match order.items.find? fun i => i.id == item.orderItemId with
    | none => pure ()
    | some orderItem => do
      let ctx : AuditContext :=
        { eventType := "return_restocked", referenceType := some "return_request"
          referenceId := some rc.returnRequestId.text, actorId := some rc.receivedBy }
      let _ ← updateVariantWhere ctx orderItem.variantId (fun _ => true) fun v =>
        { v with stockQuantity := v.stockQuantity + item.requestedQuantity }
      pure ()
  else pure ()

def Receipt.restocks (rc : Receipt) (items : List ReturnItem) : Bool :=
  items.any fun i => rc.disposition i.id == some .restock

def ReturnRequest.notEligible (rc : Receipt) (restocked : Bool) (r : ReturnRequest) : ReturnRequest :=
  { r with
    status := .completed
    receivedBy := some rc.receivedBy
    receivedAt := some rc.now
    restockedAt := if restocked then some rc.now else none
    approvedRefundAmount := some 0
    refundStatus := some .notEligible
    completedAt := some rc.now }

/-- `nextStatus`. -/
def receivedStatus (provider : Bool) : ReturnStatus := if provider then .refundPending else .manualRefundPending

def ReturnRequest.received (rc : Receipt) (restocked provider : Bool) (amount : ℤ) (r : ReturnRequest) : ReturnRequest :=
  { r with
    status := receivedStatus provider
    receivedBy := some (r.receivedBy.getD rc.receivedBy)
    receivedAt := some (r.receivedAt.getD rc.now)
    restockedAt := if restocked then some (r.restockedAt.getD rc.now) else r.restockedAt
    approvedRefundAmount := some amount
    refundMode := some (if provider then .provider else .manual)
    refundStatus := some (if provider then .dispatching else .awaitingManualConfirmation) }

def ReturnRequest.toManual (r : ReturnRequest) : ReturnRequest :=
  { r with
    status := .manualRefundPending, refundMode := some .manual, refundStatus := some .awaitingManualConfirmation }

/-- Whether the return is refunded by the provider: only the simulated adapter exists, and only for money that came in
online. -/
def usesProvider (cfg : Config) (payment : Option (Uuid × Payment)) : Bool :=
  match payment with
  | none => false
  | some e => cfg.isRefundSimulationEnabled && e.2.status.refundable && e.2.method != .cod

/-- A status that is written must fit its column. -/
def Config.writesStatus (cfg : Config) (s : ReturnStatus) : Trans Unit :=
  Tx.ensure (cfg.holdsStatus s = true) (valueTooLong ("character varying(" ++ toString cfg.columns.returnStatusLength ++ ")"))

/-- An approved request whose goods are here. -/
def receiveApproved (cfg : Config) (rc : Receipt) (payment : Option (Uuid × Payment)) (order : Order)
    (request : ReturnRequest) : Trans (Option ReturnRefundDispatch) := do
  Tx.ensure (order.inventoryState = .committed ∨ order.inventoryState = .returned)
    (badRequest "Tồn kho đơn hàng không ở trạng thái có thể nhập lại.")
  Tx.ensure (rc.classifies request.items = true)
    (badRequest "Phải phân loại chính xác một lần cho từng sản phẩm được trả.")
  let prior ← query (approvedTotal request.orderId (some rc.returnRequestId))
  let amount := rc.approvedRefundAmount order request.items prior
  let refunds := allocateReturnItemRefunds amount (discountRatio order.subtotal order.discountAmount) 0
    ((rc.accepted request.items).map fun i => (i.id, i.grossAmount))
  Tx.each (receiveItem rc order refunds) request.items
  if amount ≤ 0 then do
    updateRow .returnRequests rc.returnRequestId (ReturnRequest.notEligible rc (rc.restocks request.items))
    pure none
  else do
    cfg.writesStatus (receivedStatus (usesProvider cfg payment))
    updateRow .returnRequests rc.returnRequestId
      (ReturnRequest.received rc (rc.restocks request.items) (usesProvider cfg payment) amount)
    if usesProvider cfg payment = true ∧ request.refundPaymentId = none ∧ request.refundWorkflowStartedAt = none then
      pure (some {
        returnRequestId := rc.returnRequestId, orderId := request.orderId, userId := request.userId, amount
        reason := "Hoàn tiền cho yêu cầu trả hàng " ++ toString rc.returnRequestId ++ ": " ++ request.reason })
    else pure none

/-- The latest payment of the order of a return request. -/
def latestPaymentOfReturn (returnRequestId : Uuid) (s : Db) : Option (Uuid × Payment) :=
  (s.find Tab.returnRequests returnRequestId).bind fun r => (paymentsOf r.orderId s).head?

/-- The transaction of `receiveReturnRequest`: the refund to dispatch, if the provider is to pay it. -/
def receiveReturnRequestTransaction (cfg : Config) (rc : Receipt) : Trans (Option ReturnRefundDispatch) := do
  let payment ← query (latestPaymentOfReturn rc.returnRequestId)
  let request ← fetch .returnRequests rc.returnRequestId (notFound "Return request not found")
  let order ← fetch .orders request.orderId (notFound "Return request not found")
  match request.status with
  | .completed => pure none
  | .refundPending => pure none
  | .manualRefundPending => pure none
  | .refundFailed => do
    cfg.writesStatus .manualRefundPending
    updateRow .returnRequests rc.returnRequestId ReturnRequest.toManual
    pure none
  | .approved => receiveApproved cfg rc payment order request
  | _ => Tx.fail (badRequest "Chỉ có thể nhận lại hàng sau khi yêu cầu đã được duyệt.")

/-- The `UPDATE` after the payment service took the dispatch. -/
def recordDispatch (returnRequestId paymentId : Uuid) (reused : Bool) (now : Time) : Trans Unit := do
  let _ ← updateRowWhere .returnRequests returnRequestId (fun r => r.status != .completed) fun r =>
    { r with
      status := .refundPending
      refundStatus := some (if reused then .processingReused else .processing)
      refundPaymentId := some paymentId
      refundWorkflowStartedAt := some (r.refundWorkflowStartedAt.getD now) }
  pure ()

/-- The `UPDATE` after the dispatch failed, or seemed to. -/
def recordDispatchFailure (returnRequestId : Uuid) : Trans Unit := do
  let _ ← updateRowWhere .returnRequests returnRequestId (fun r => r.status != .completed) fun r =>
    { r with status := .refundFailed, refundStatus := some .dispatchFailed }
  pure ()

/-! ## Closing it -/

/-- `UPDATE orders SET status_id = refunded`, with a log row when that is a change. -/
def markOrderRefunded (orderId : Uuid) (order : Order) (note : String) (now : Time) : Trans Unit := do
  updateRow .orders orderId fun o => { o with status := .refunded, updatedAt := now }
  if order.status = .refunded then pure ()
  else log (.status { orderId, fromStatus := order.status, toStatus := .refunded, note, createdAt := now })

inductive RefundOutcome
  | completed
  | failed
  deriving DecidableEq, Repr

def updateReturnRefundResultTransaction (id : Uuid) (result : RefundOutcome) (now : Time) : Trans Unit := do
  let request ← fetch .returnRequests id (notFound "Return request not found")
  let order ← fetch .orders request.orderId (notFound "Return request not found")
  if request.status = .completed then pure ()
  else do
    Tx.ensure (request.awaitsRefund = true) (badRequest "Yêu cầu trả hàng không ở trạng thái chờ kết quả hoàn tiền.")
    match result with
    | .failed =>
      updateRow .returnRequests id fun r => { r with status := .refundFailed, refundStatus := some .providerFailed }
    | .completed => do
      updateRow .returnRequests id fun r =>
        { r with status := .completed, refundStatus := some .completed, completedAt := some now }
      let total ← query (approvedTotal request.orderId none)
      if total < merchandiseTotal order then pure ()
      else markOrderRefunded request.orderId order ("Provider refund completed for return " ++ toString id) now

structure ManualRefund where
  returnRequestId : Uuid
  completedBy : Uuid
  amount : ℚ
  transactionReference : String
  note : Option String
  evidenceUrls : List String
  now : Time

/-- What was paid back on the order's finished requests, through either channel. -/
def paidBackTotal (orderId : Uuid) (s : Db) : ℤ :=
  (s.rows Tab.returnRequests).total fun _ r =>
    if r.orderId = orderId ∧ r.status = .completed then
      match r.refundStatus with
      | some .manualCompleted => r.manualRefundAmount.getD 0
      | some .completed => r.approvedRefundAmount.getD 0
      | _ => 0
    else 0

def ReturnRequest.manuallyRefunded (m : ManualRefund) (r : ReturnRequest) : ReturnRequest :=
  { r with
    status := .completed
    refundStatus := some .manualCompleted
    manualRefundAmount := some (roundMoney m.amount)
    manualRefundReference := some (trim m.transactionReference)
    manualRefundNote := nonEmpty (m.note.map trim)
    manualRefundEvidenceUrls := m.evidenceUrls
    manualRefundCompletedBy := some m.completedBy
    completedAt := some m.now }

/-- Whether another request carries the same transaction reference. -/
def referenceTaken (m : ManualRefund) (id : Uuid) (r : ReturnRequest) : Bool :=
  id != m.returnRequestId && r.manualRefundReference.any fun ref => ref.toLower == (trim m.transactionReference).toLower

/-- A request that waits for its manual refund. -/
def confirmManualRefund (m : ManualRefund) (order : Order) (request : ReturnRequest) : Trans Bool := do
  let duplicate ← query fun s => (s.rows Tab.returnRequests).find (referenceTaken m)
  Tx.ensure (duplicate.isNone = true) (badRequest "Mã giao dịch hoàn tiền đã được sử dụng cho yêu cầu khác.")
  Tx.ensure (roundMoney m.amount = request.approvedRefundAmount.getD 0)
    (badRequest ("Số tiền xác nhận phải đúng bằng " ++ toString (request.approvedRefundAmount.getD 0) ++ "."))
  Tx.ensure (m.evidenceUrls ≠ []) (checkViolation "chk_manual_refund_has_evidence")
  uniqueIn (.manualReference (trim m.transactionReference).toLower) .returnRequests (referenceTaken m)
    (uniqueViolation "ux_return_requests_manual_refund_reference")
  updateRow .returnRequests m.returnRequestId (ReturnRequest.manuallyRefunded m)
  let total ← query (paidBackTotal request.orderId)
  if merchandiseTotal order ≤ total then do
    markOrderRefunded request.orderId order ("Manual return refund confirmed by " ++ toString m.completedBy) m.now
    pure true
  else pure true

/-- The transaction of `completeManualReturnRefund`: whether the evidence is recorded. -/
def completeManualReturnRefundTransaction (m : ManualRefund) : Trans Bool := do
  let request ← fetch .returnRequests m.returnRequestId (notFound "Return request not found")
  let order ← fetch .orders request.orderId (notFound "Return request not found")
  match request.status with
  | .completed => pure false
  | .manualRefundPending => confirmManualRefund m order request
  | _ => Tx.fail (badRequest "Yêu cầu này không chờ xác nhận hoàn tiền thủ công.")

end Balii
